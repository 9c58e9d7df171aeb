import Mathlib.Algebra.Group.Prod
import Mathlib.Algebra.GroupWithZero.Nat
import Mathlib.Algebra.Order.Group.Multiset

/-!
# Runs of a guarded step function

`step s e = none` says that the event `e` cannot happen in `s`. A run is a list
of events; `Along ok` says that each of its steps meets `ok`, a condition on the
state before the step and the event.
-/

namespace StayApi

section
variable {S E : Type} (step : S → E → Option S)

def run : S → List E → Option S
  | s, [] => some s
  | s, e :: es =>
    match step s e with
    | some s' => run s' es
    | none => none

def Along (ok : S → E → Prop) : S → List E → Prop
  | _, [] => True
  | s, e :: es => ok s e ∧ ∀ s', step s e = some s' → Along ok s' es

variable {step}

theorem run_cons {s s' : S} {e : E} {es : List E} (h : run step s (e :: es) = some s') :
    ∃ t, step s e = some t ∧ run step t es = some s' := by
  unfold run at h
  cases he : step s e with
  | none => simp [he] at h
  | some t => simp only [he] at h; exact ⟨t, rfl, h⟩

theorem run_append {s s' : S} {es fs : List E} :
    run step s (es ++ fs) = some s' ↔ ∃ t, run step s es = some t ∧ run step t fs = some s' := by
  induction es generalizing s with
  | nil => simp [run]
  | cons e es ih =>
    simp only [List.cons_append, run]
    cases he : step s e with
    | none => simp
    | some t => simpa using ih

theorem along_cons {ok : S → E → Prop} {s s' : S} {e : E} {es : List E} (hs : step s e = some s') :
    Along step ok s (e :: es) ↔ ok s e ∧ Along step ok s' es := by
  constructor
  · intro h
    exact ⟨h.1, h.2 s' hs⟩
  · rintro ⟨h, h'⟩
    refine ⟨h, fun t ht => ?_⟩
    obtain rfl : s' = t := Option.some.inj (hs.symm.trans ht)
    exact h'

theorem along_append {ok : S → E → Prop} {s s' : S} {es fs : List E} (hr : run step s es = some s') :
    Along step ok s (es ++ fs) ↔ Along step ok s es ∧ Along step ok s' fs := by
  induction es generalizing s with
  | nil =>
    obtain rfl : s = s' := by simpa [run] using hr
    exact ⟨fun h => ⟨trivial, h⟩, fun h => h.2⟩
  | cons e es ih =>
    obtain ⟨t, ht, hr⟩ := run_cons hr
    rw [List.cons_append, along_cons ht, along_cons ht, ih hr, and_assoc]

theorem along_true (s : S) (es : List E) : Along step (fun _ _ => True) s es := by
  induction es generalizing s with
  | nil => trivial
  | cons e es ih => exact ⟨trivial, fun t _ => ih t⟩

theorem along_of_forall {p : E → Prop} {es : List E} (h : ∀ e ∈ es, p e) (s : S) : Along step (fun _ e => p e) s es := by
  induction es generalizing s with
  | nil => trivial
  | cons e es ih => exact ⟨h e List.mem_cons_self, fun t _ => ih (fun f hf => h f (List.mem_cons_of_mem _ hf)) t⟩

theorem along_and {p q : S → E → Prop} {s : S} {es : List E} :
    Along step (fun s e => p s e ∧ q s e) s es ↔ Along step p s es ∧ Along step q s es := by
  induction es generalizing s with
  | nil => exact ⟨fun _ => ⟨trivial, trivial⟩, fun _ => trivial⟩
  | cons e es ih =>
    constructor
    · rintro ⟨⟨hp, hq⟩, h⟩
      exact ⟨⟨hp, fun t ht => (ih.mp (h t ht)).1⟩, hq, fun t ht => (ih.mp (h t ht)).2⟩
    · rintro ⟨⟨hp, h⟩, hq, h'⟩
      exact ⟨⟨hp, hq⟩, fun t ht => ih.mpr ⟨h t ht, h' t ht⟩⟩

theorem along_all {α : Type} {p : α → S → E → Prop} {s : S} {es : List E} :
    Along step (fun s e => ∀ a, p a s e) s es ↔ ∀ a, Along step (p a) s es := by
  induction es generalizing s with
  | nil => exact ⟨fun _ _ => trivial, fun _ => trivial⟩
  | cons e es ih =>
    constructor
    · rintro ⟨hp, h⟩ a
      exact ⟨hp a, fun t ht => ih.mp (h t ht) a⟩
    · intro h
      exact ⟨fun a => (h a).1, fun t ht => ih.mpr fun a => (h a).2 t ht⟩

theorem along_mono {ok ok' : S → E → Prop} (hk : ∀ s e, ok s e → ok' s e) :
    ∀ {es : List E} {s : S}, Along step ok s es → Along step ok' s es
  | [], _, _ => trivial
  | _ :: _, _, h => ⟨hk _ _ h.1, fun s' hs => along_mono hk (h.2 s' hs)⟩

/-- A run that does not meet `ok` throughout has a first part after which a step does not. -/
theorem not_along {ok : S → E → Prop} {s s' : S} {es : List E} (hr : run step s es = some s')
    (h : ¬ Along step ok s es) :
    ∃ es₁ e es₂ t, es = es₁ ++ e :: es₂ ∧ run step s es₁ = some t ∧ ¬ ok t e := by
  induction es generalizing s with
  | nil => exact absurd trivial h
  | cons e es ih =>
    obtain ⟨t, ht, hr⟩ := run_cons hr
    by_cases ho : ok s e
    · have hn : ¬ Along step ok t es := by
        intro ha
        exact h ((along_cons ht).mpr ⟨ho, ha⟩)
      obtain ⟨es₁, e', es₂, u, rfl, hu, hne⟩ := ih hr hn
      refine ⟨e :: es₁, e', es₂, u, rfl, ?_, hne⟩
      simp only [run, ht]
      exact hu
    · exact ⟨[], e, es, s, rfl, rfl, ho⟩

instance decidableAlong (ok : S → E → Prop) [∀ s e, Decidable (ok s e)] :
    ∀ s es, Decidable (Along step ok s es)
  | _, [] => .isTrue trivial
  | s, e :: es =>
    match he : step s e with
    | none => decidable_of_iff (ok s e) ⟨fun h => ⟨h, fun s' hs => by rw [he] at hs; cases hs⟩, fun h => h.1⟩
    | some t =>
      have := decidableAlong ok t es
      decidable_of_iff (ok s e ∧ Along step ok t es)
        ⟨fun h => ⟨h.1, fun s' hs => Option.some.inj (he.symm.trans hs) ▸ h.2⟩, fun h => ⟨h.1, h.2 t he⟩⟩

/-- What holds at the start and is kept by every step that meets `ok` holds
after every run whose steps meet `ok`. -/
theorem run_invariant {ok : S → E → Prop} {I : S → Prop}
    (hI : ∀ s e s', I s → ok s e → step s e = some s' → I s') :
    ∀ {es : List E} {s s' : S}, I s → Along step ok s es → run step s es = some s' → I s'
  | [], s, s', h, _, hr => by
    obtain rfl : s = s' := by simpa [run] using hr
    exact h
  | e :: es, s, s', h, hk, hr => by
    obtain ⟨t, ht, hr⟩ := run_cons hr
    exact run_invariant hI (hI s e t h hk.1 ht) (hk.2 t ht) hr

/-- The states a run goes through are its start and the states its steps lead to. -/
theorem along_next {P : S → Prop} {es : List E} {s s' : S} (hr : run step s es = some s') :
    Along step (fun s _ => P s) s es ∧ P s' ↔
      P s ∧ Along step (fun s e => ∀ t, step s e = some t → P t) s es := by
  induction es generalizing s with
  | nil =>
    obtain rfl : s = s' := by simpa [run] using hr
    exact ⟨fun h => ⟨h.2, trivial⟩, fun h => ⟨trivial, h.1⟩⟩
  | cons e es ih =>
    obtain ⟨t, ht, hr⟩ := run_cons hr
    have hnext : (∀ u, step s e = some u → P u) ↔ P t := by
      constructor
      · intro h
        exact h t ht
      · intro h u hu
        obtain rfl : t = u := Option.some.inj (ht.symm.trans hu)
        exact h
    rw [along_cons ht, along_cons ht, hnext, and_assoc, ih hr]

theorem along_invariant {ok : S → E → Prop} {I : S → Prop}
    (hI : ∀ s e s', I s → ok s e → step s e = some s' → I s') :
    ∀ {es : List E} {s : S}, I s → Along step ok s es → Along step (fun s e => I s ∧ ok s e) s es
  | [], _, _, _ => trivial
  | e :: _, s, h, hk => ⟨⟨h, hk.1⟩, fun s' hs => along_invariant hI (hI s e s' h hk.1 hs) (hk.2 s' hs)⟩

/-- One event again and again: `I k` says what holds when `k` of them are left. -/
theorem run_replicate {I : Nat → S → Prop} {e : E} (hI : ∀ k s, I (k + 1) s → ∃ s', step s e = some s' ∧ I k s') :
    ∀ (n : Nat) {s : S}, I n s → ∃ s', run step s (List.replicate n e) = some s' ∧ I 0 s'
  | 0, s, h => ⟨s, rfl, h⟩
  | n + 1, s, h => by
    obtain ⟨t, ht, hn⟩ := hI n s h
    obtain ⟨s', hr, h0⟩ := run_replicate hI n hn
    refine ⟨s', ?_, h0⟩
    simp only [List.replicate_succ, run, ht]
    exact hr

/-- When every step is paid for by the measure and by what its event brings, so is every run. -/
theorem run_paid {μ : S → Nat} {cost income : E → Nat}
    (h : ∀ s e s', step s e = some s' → μ s' + cost e ≤ μ s + income e) :
    ∀ {es : List E} {s s' : S}, run step s es = some s' → μ s' + (es.map cost).sum ≤ μ s + (es.map income).sum
  | [], s, s', hr => by
    obtain rfl : s = s' := by simpa [run] using hr
    exact Nat.le_refl _
  | e :: es, s, s', hr => by
    obtain ⟨t, ht, hr⟩ := run_cons hr
    have h1 := h s e t ht
    have h2 := run_paid h hr
    simp only [List.map_cons, List.sum_cons]
    omega

/-- What can always go on at the measure's expense comes to an end. -/
theorem run_drains {μ : S → Nat} {I : S → Prop} {p : E → Prop} {done : S → Prop}
    (h : ∀ s, I s → ¬ done s → ∃ e s', p e ∧ step s e = some s' ∧ I s' ∧ μ s' + 1 ≤ μ s) :
    ∀ (n : Nat) {s : S}, I s → μ s ≤ n →
      ∃ es s', (∀ e ∈ es, p e) ∧ es.length ≤ n ∧ run step s es = some s' ∧ I s' ∧ done s'
  | 0, s, hi, hn => by
    by_cases hd : done s
    · exact ⟨[], s, by simp, Nat.le_refl 0, rfl, hi, hd⟩
    · obtain ⟨e, s', -, -, -, hm⟩ := h s hi hd
      omega
  | n + 1, s, hi, hn => by
    by_cases hd : done s
    · exact ⟨[], s, by simp, Nat.zero_le _, rfl, hi, hd⟩
    · obtain ⟨e, t, hp, ht, hit, hm⟩ := h s hi hd
      obtain ⟨es, s', hes, hl, hr, hi', hd'⟩ := run_drains h n hit (by omega)
      refine ⟨e :: es, s', List.forall_mem_cons.mpr ⟨hp, hes⟩, Nat.succ_le_succ hl, ?_, hi', hd'⟩
      simp only [run, ht]
      exact hr

variable (step) in
/-- The step function that keeps the events so far beside the state. -/
def recorded (x : List E × S) (e : E) : Option (List E × S) := (step x.2 e).map fun s => (x.1 ++ [e], s)

theorem run_recorded {es h : List E} {s s' : S} (hr : run step s es = some s') :
    run (recorded step) (h, s) es = some (h ++ es, s') := by
  induction es generalizing s h with
  | nil =>
    obtain rfl : s = s' := by simpa [run] using hr
    rw [List.append_nil]; rfl
  | cons e es ih =>
    obtain ⟨t, ht, hr⟩ := run_cons hr
    have h' := ih (h := h ++ [e]) hr
    rw [List.append_assoc, List.singleton_append] at h'
    simpa only [run, recorded, ht, Option.map_some] using h'

theorem recorded_snd (x : List E × S) (e : E) : step x.2 e = (recorded step x e).map Prod.snd := by
  unfold recorded
  rw [Option.map_map]
  exact Option.map_id.symm ▸ rfl

end

section
variable {S E F : Type} {step : S → E → Option S} (g : F → E)

theorem run_events (s : S) (fs : List F) : run (fun s f => step s (g f)) s fs = run step s (fs.map g) := by
  induction fs generalizing s with
  | nil => rfl
  | cons f fs ih =>
    simp only [run, List.map_cons]
    cases step s (g f) with
    | none => rfl
    | some t => exact ih t

theorem along_events {ok : S → E → Prop} (s : S) (fs : List F) :
    Along (fun s f => step s (g f)) (fun s f => ok s (g f)) s fs ↔ Along step ok s (fs.map g) := by
  induction fs generalizing s with
  | nil => rfl
  | cons f fs ih => exact and_congr Iff.rfl (forall₂_congr fun t _ => ih t)

end

section
variable {S E M N : Type} [AddMonoid M] [AddMonoid N] (step : S → E → Option S)

/-- The sum of what the steps of a run contribute. -/
def gather (f : S → E → M) : S → List E → M
  | _, [] => 0
  | s, e :: es =>
    match step s e with
    | some s' => f s e + gather f s' es
    | none => 0

theorem gather_prod (f : S → E → M) (g : S → E → N) (s : S) (es : List E) :
    gather step (fun s e => (f s e, g s e)) s es = (gather step f s es, gather step g s es) := by
  induction es generalizing s with
  | nil => rfl
  | cons e es ih =>
    simp only [gather]
    cases step s e with
    | none => rfl
    | some t => simp only [ih]; rfl

variable {step}

/-- The invariant rule for a property of the state and a sum over the run. -/
theorem run_gather {ok : S → E → Prop} {f : S → E → M} {I : M → S → Prop}
    (hI : ∀ x s e s', I x s → ok s e → step s e = some s' → I (x + f s e) s') :
    ∀ {es : List E} {x : M} {s s' : S}, I x s → Along step ok s es → run step s es = some s' →
      I (x + gather step f s es) s'
  | [], x, s, s', hi, _, hr => by
    obtain rfl : s = s' := by simpa [run] using hr
    simpa [gather] using hi
  | e :: es, x, s, s', hi, hk, hr => by
    obtain ⟨t, ht, hr⟩ := run_cons hr
    have h := run_gather hI (hI x s e t hi hk.1 ht) (hk.2 t ht) hr
    rw [add_assoc] at h
    simpa only [gather, ht] using h

theorem gather_append {f : S → E → M} {s s' : S} {es : List E} (hr : run step s es = some s') (fs : List E) :
    gather step f s (es ++ fs) = gather step f s es + gather step f s' fs := by
  induction es generalizing s with
  | nil =>
    obtain rfl : s = s' := by simpa [run] using hr
    exact (zero_add _).symm
  | cons e es ih =>
    obtain ⟨t, ht, hr⟩ := run_cons hr
    simp only [List.cons_append, gather, ht]
    rw [ih hr, add_assoc]

theorem notMem_gather {α : Type} {f : S → E → Multiset α} {a : α} {s s' : S} {es : List E}
    (hr : run step s es = some s') :
    a ∉ gather step f s es ↔ Along step (fun s e => a ∉ f s e) s es := by
  induction es generalizing s with
  | nil => exact ⟨fun _ => trivial, fun _ => Multiset.notMem_zero a⟩
  | cons e es ih =>
    obtain ⟨t, ht, hr⟩ := run_cons hr
    rw [along_cons ht, ← ih hr]
    simp only [gather, ht]
    rw [Multiset.mem_add, not_or]

end

section
variable {S T E : Type} {step : S → E → Option S} {step' : T → E → Option T} {f : T → S}
variable (hf : ∀ t e, step (f t) e = (step' t e).map f)
include hf

theorem run_map (t : T) (es : List E) : run step (f t) es = (run step' t es).map f := by
  induction es generalizing t with
  | nil => rfl
  | cons e es ih =>
    simp only [run, hf]
    cases step' t e with
    | none => rfl
    | some u => exact ih u

theorem along_map {ok : S → E → Prop} {t : T} {es : List E} :
    Along step ok (f t) es ↔ Along step' (fun t e => ok (f t) e) t es := by
  induction es generalizing t with
  | nil => rfl
  | cons e es ih =>
    cases he : step' t e with
    | none =>
      have hn : step (f t) e = none := by rw [hf, he]; rfl
      constructor
      · intro h
        exact ⟨h.1, fun u hu => by rw [he] at hu; cases hu⟩
      · intro h
        exact ⟨h.1, fun u hu => by rw [hn] at hu; cases hu⟩
    | some u =>
      have hs : step (f t) e = some (f u) := by rw [hf, he]; rfl
      rw [along_cons hs, along_cons he, ih]

theorem gather_map {M : Type} [AddMonoid M] (g : S → E → M) (t : T) (es : List E) :
    gather step g (f t) es = gather step' (fun t e => g (f t) e) t es := by
  induction es generalizing t with
  | nil => rfl
  | cons e es ih =>
    simp only [gather, hf]
    cases step' t e with
    | none => rfl
    | some u => exact congrArg (g (f t) e + ·) (ih u)

theorem run_lift {t : T} {es : List E} {s : S} (h : run step (f t) es = some s) :
    ∃ u, run step' t es = some u ∧ f u = s := by
  rw [run_map hf] at h
  exact Option.map_eq_some_iff.mp h

theorem recorded_map (x : List E × T) (e : E) :
    recorded step (Prod.map id f x) e = (recorded step' x e).map (Prod.map id f) := by
  unfold recorded
  rw [Prod.map_snd, hf, Option.map_map, Option.map_map]
  rfl

end

end StayApi
