import Mathlib.Data.List.Basic

/-!
# A catalog of objects

The objects of a database, with what they need of each other. With `CASCADE` an
object goes along with any object it needs, and a part of an object (a
constraint, a default, a column) goes alone; without it a drop fails while
another object needs the one to be dropped.
-/

set_option linter.unusedSectionVars false

namespace StayApi.Catalog

structure Object (ω π : Type) where
  name : ω
  needs : List ω
  /-- the parts, each with the object it needs -/
  parts : List (π × ω)

section
variable {ω π : Type} [DecidableEq ω]

def names (c : List (Object ω π)) : List ω := c.map Object.name

def Object.requires (o : Object ω π) : List ω := o.needs ++ o.parts.map Prod.snd

/-! ## The statements -/

def create (o : Object ω π) (c : List (Object ω π)) : Option (List (Object ω π)) :=
  if o.name ∉ names c ∧ ∀ x ∈ o.requires, x ∈ names c ++ [o.name] then some (c ++ [o]) else none

/-- `CREATE ... IF NOT EXISTS` of what has to be available where it is brought in from. -/
def createIfNotExists (available : Bool) (o : Object ω π) (c : List (Object ω π)) : Option (List (Object ω π)) :=
  if o.name ∈ names c then some c else if available then create o c else none

def createAll (os c : List (Object ω π)) : Option (List (Object ω π)) := os.foldlM (fun c o => create o c) c

/-- `DROP ... IF EXISTS`. -/
def dropIfExists (x : ω) (c : List (Object ω π)) : Option (List (Object ω π)) :=
  if x ∉ names c then some c
  else if ∃ o ∈ c, o.name ≠ x ∧ x ∈ o.requires then none
  else some (c.filter fun o => o.name ≠ x)

/-- What goes next when the objects named are gone. -/
def nextGone (c : List (Object ω π)) (gone : List ω) : List ω :=
  names (c.filter fun o => o.name ∉ gone && o.needs.any (· ∈ gone))

def downfall (c : List (Object ω π)) : Nat → List ω → List ω
  | 0, gone => gone
  | n + 1, gone => downfall c n (gone ++ nextGone c gone)

def Object.strip (gone : List ω) (o : Object ω π) : Object ω π :=
  { o with parts := o.parts.filter fun p => p.2 ∉ gone }

def without (xs : List ω) (c : List (Object ω π)) : List (Object ω π) :=
  let gone := downfall c c.length xs
  (c.filter fun o => o.name ∉ gone).map (Object.strip gone)

/-- `DROP ... IF EXISTS ... CASCADE`. -/
def dropCascade (x : ω) (c : List (Object ω π)) : List (Object ω π) := if x ∉ names c then c else without [x] c

/-! ## What a cascade takes along -/

inductive Falls (c : List (Object ω π)) (xs : List ω) : ω → Prop
  | dropped {x : ω} : x ∈ xs → Falls c xs x
  | along {x : ω} {o : Object ω π} : Falls c xs x → o ∈ c → x ∈ o.needs → Falls c xs o.name

def Closed (c : List (Object ω π)) : Prop := ∀ o ∈ c, ∀ x ∈ o.requires, x ∈ names c

variable {c : List (Object ω π)} {o : Object ω π} {gone xs ys : List ω} {x : ω} {n : Nat}

theorem mem_nextGone : x ∈ nextGone c gone ↔ ∃ o ∈ c, o.name ∉ gone ∧ (∃ y ∈ o.needs, y ∈ gone) ∧ o.name = x := by
  simp [nextGone, names, and_assoc]

theorem subset_downfall (h : x ∈ gone) : x ∈ downfall c n gone := by
  induction n generalizing gone with
  | zero => exact h
  | succ n ih => exact ih (List.mem_append_left _ h)

theorem falls_of_mem_downfall (hg : ∀ y ∈ gone, Falls c xs y) (h : x ∈ downfall c n gone) : Falls c xs x := by
  induction n generalizing gone with
  | zero => exact hg x h
  | succ n ih =>
    refine ih (fun y hy => ?_) h
    rcases List.mem_append.mp hy with hy | hy
    · exact hg y hy
    · obtain ⟨o, ho, -, ⟨z, hz, hzg⟩, rfl⟩ := mem_nextGone.mp hy
      exact .along (hg z hzg) ho hz

/-- Each round takes another object, so as many rounds as objects are left are enough. -/
theorem downfall_closed (hn : (c.filter fun o => o.name ∉ gone).length ≤ n) (ho : o ∈ c) (hx : x ∈ o.needs)
    (h : x ∈ downfall c n gone) : o.name ∈ downfall c n gone := by
  induction n generalizing gone with
  | zero =>
    have hnone : c.filter (fun o => o.name ∉ gone) = [] := List.length_eq_zero_iff.mp (Nat.le_zero.mp hn)
    have hmem : o.name ∈ gone := by simpa using List.filter_eq_nil_iff.mp hnone o ho
    exact hmem
  | succ n ih =>
    by_cases hstop : nextGone c gone = []
    · have hclosed : ∀ m, downfall c m gone = gone := by
        intro m
        induction m with
        | zero => rfl
        | succ m ihm => rw [downfall, hstop, List.append_nil, ihm]
      rw [hclosed] at h ⊢
      by_contra hgone
      have : o.name ∈ nextGone c gone := mem_nextGone.mpr ⟨o, ho, hgone, ⟨x, hx, h⟩, rfl⟩
      simp [hstop] at this
    · refine ih ?_ h
      obtain ⟨y, hy⟩ := List.exists_mem_of_ne_nil _ hstop
      obtain ⟨p, hp, hpg, -, rfl⟩ := mem_nextGone.mp hy
      have hsplit : c.filter (fun o => o.name ∉ gone ++ nextGone c gone) =
          (c.filter fun o => o.name ∉ gone).filter fun o => o.name ∉ nextGone c gone := by
        rw [List.filter_filter]
        exact List.filter_congr fun o _ => by simp [Bool.and_comm]
      rw [hsplit]
      have hlt := List.length_filter_lt_length_iff_exists (p := fun o : Object ω π => decide (o.name ∉ nextGone c gone))
        (l := c.filter fun o => o.name ∉ gone) |>.mpr ⟨p, by simp [hp, hpg], by simp [hy]⟩
      omega

theorem mem_downfall : x ∈ downfall c c.length xs ↔ Falls c xs x := by
  constructor
  · exact falls_of_mem_downfall fun y hy => .dropped hy
  · intro h
    induction h with
    | dropped hx => exact subset_downfall hx
    | along _ ho hx ih => exact downfall_closed (List.length_filter_le _ _) ho hx ih

theorem mem_names : x ∈ names c ↔ ∃ o ∈ c, o.name = x := List.mem_map

theorem mem_without {o' : Object ω π} : o' ∈ without xs c ↔
    ∃ o ∈ c, ¬ Falls c xs o.name ∧ o.strip (downfall c c.length xs) = o' := by
  simp [without, mem_downfall, and_assoc]

theorem mem_names_without : x ∈ names (without xs c) ↔ x ∈ names c ∧ ¬ Falls c xs x := by
  simp only [mem_names, mem_without]
  constructor
  · rintro ⟨o', ⟨o, ho, hf, rfl⟩, rfl⟩
    exact ⟨⟨o, ho, rfl⟩, hf⟩
  · rintro ⟨⟨o, ho, rfl⟩, hf⟩
    exact ⟨_, ⟨o, ho, hf, rfl⟩, rfl⟩

theorem mem_strip_requires : x ∈ (o.strip gone).requires ↔ x ∈ o.needs ∨ x ∈ o.parts.map Prod.snd ∧ x ∉ gone := by
  simp only [Object.requires, Object.strip, List.mem_append, List.mem_map, List.mem_filter, decide_eq_true_eq]
  constructor
  · rintro (h | ⟨p, ⟨hp, hg⟩, rfl⟩)
    · exact .inl h
    · exact .inr ⟨⟨p, hp, rfl⟩, hg⟩
  · rintro (h | ⟨⟨p, hp, rfl⟩, hg⟩)
    · exact .inl h
    · exact .inr ⟨p, ⟨hp, hg⟩, rfl⟩

theorem closed_without (h : Closed c) : Closed (without xs c) := by
  intro o' ho' x hx
  obtain ⟨o, ho, hf, rfl⟩ := mem_without.mp ho'
  rw [mem_names_without]
  rcases mem_strip_requires.mp hx with hx | ⟨hx, hg⟩
  · exact ⟨h o ho x (List.mem_append_left _ hx), fun hfall => hf (.along hfall ho hx)⟩
  · exact ⟨h o ho x (List.mem_append_right _ hx), fun hfall => hg (mem_downfall.mpr hfall)⟩

/-- What goes when all are dropped goes with the first ones or, of what these leave, with the others. -/
theorem falls_append : Falls c (xs ++ ys) x ↔ Falls c xs x ∨ Falls (without xs c) ys x := by
  constructor
  · intro h
    induction h with
    | dropped hx => exact (List.mem_append.mp hx).imp .dropped .dropped
    | @along x o _ ho hx ih =>
      by_cases hf : Falls c xs o.name
      · exact .inl hf
      · rcases ih with ih | ih
        · exact .inl (.along ih ho hx)
        · exact .inr (.along (o := o.strip _) ih (mem_without.mpr ⟨o, ho, hf, rfl⟩) hx)
  · rintro (h | h)
    · induction h with
      | dropped hx => exact .dropped (List.mem_append_left _ hx)
      | along _ ho hx ih => exact .along ih ho hx
    · induction h with
      | dropped hx => exact .dropped (List.mem_append_right _ hx)
      | along _ ho hx ih =>
        obtain ⟨o, hoc, -, rfl⟩ := mem_without.mp ho
        exact .along (o := o) ih hoc hx

theorem without_append : without ys (without xs c) = without (xs ++ ys) c := by
  have hmem : ∀ x, x ∈ downfall c c.length (xs ++ ys) ↔ x ∈ downfall c c.length xs ∨
      x ∈ downfall (without xs c) (without xs c).length ys := by
    intro x
    rw [mem_downfall, mem_downfall, mem_downfall, falls_append]
  have hstrip : ∀ o : Object ω π, (o.strip (downfall c c.length xs)).strip
      (downfall (without xs c) (without xs c).length ys) = o.strip (downfall c c.length (xs ++ ys)) := by
    intro o
    unfold Object.strip
    rw [List.filter_filter]
    congr 1
    exact List.filter_congr fun p _ => by simp [hmem, Bool.and_comm]
  show ((without xs c).filter _).map _ = (c.filter _).map _
  conv => lhs; arg 2; unfold without
  rw [List.filter_map, List.map_map, List.filter_filter]
  have hfilter : c.filter (fun o => decide (o.name ∉ downfall c c.length (xs ++ ys))) = c.filter fun o =>
      ((fun o : Object ω π => decide (o.name ∉ downfall (without xs c) (without xs c).length ys)) ∘
        Object.strip (downfall c c.length xs)) o && decide (o.name ∉ downfall c c.length xs) :=
    List.filter_congr fun o _ => by simp [hmem, Object.strip, Bool.and_comm]
  rw [hfilter]
  exact List.map_congr_left fun o _ => hstrip o

theorem strip_eq (h : ∀ x ∈ o.parts.map Prod.snd, ¬ Falls c xs x) : o.strip (downfall c c.length xs) = o := by
  have hparts : o.parts.filter (fun p => p.2 ∉ downfall c c.length xs) = o.parts := by
    apply List.filter_eq_self.mpr
    intro p hp
    simpa [mem_downfall] using h p.2 (List.mem_map_of_mem hp)
  unfold Object.strip
  rw [hparts]

theorem without_absent (h : Closed c) (hx : ∀ x ∈ xs, x ∉ names c) : without xs c = c := by
  have hfall : ∀ x, Falls c xs x → x ∉ names c := by
    intro x hf
    induction hf with
    | dropped hm => exact hx _ hm
    | along _ ho hn ih => exact absurd (h _ ho _ (List.mem_append_left _ hn)) ih
  have hfilter : c.filter (fun o => o.name ∉ downfall c c.length xs) = c := by
    apply List.filter_eq_self.mpr
    intro o ho
    simpa [mem_downfall] using fun hf => hfall _ hf (mem_names.mpr ⟨o, ho, rfl⟩)
  show (c.filter _).map _ = c
  rw [hfilter]
  refine (List.map_congr_left fun o ho => strip_eq fun x hm hf => ?_).trans (List.map_id _)
  exact hfall x hf (h o ho x (List.mem_append_right _ hm))

theorem dropCascade_eq (h : Closed c) : dropCascade x c = without [x] c := by
  unfold dropCascade
  by_cases hx : x ∈ names c
  · rw [if_neg (not_not_intro hx)]
  · rw [if_pos hx, without_absent h (by simpa using hx)]

theorem foldl_dropCascade (h : Closed c) : xs.foldl (fun c x => dropCascade x c) c = without xs c := by
  induction xs generalizing c with
  | nil => exact (without_absent h (by simp)).symm
  | cons x xs ih =>
    rw [List.foldl_cons, dropCascade_eq h, ih (closed_without h), without_append]
    rfl

/-- Of a group that nothing else requires, all goes and nothing else. -/
theorem mem_without_group {p : ω → Prop} (hx : ∀ x ∈ xs, p x) (hp : ∀ o ∈ c, p o.name → Falls c xs o.name)
    (hr : ∀ o ∈ c, ¬ p o.name → ∀ x ∈ o.requires, ¬ p x) : o ∈ without xs c ↔ o ∈ c ∧ ¬ p o.name := by
  have hfall : ∀ x, Falls c xs x → p x := by
    intro x hf
    induction hf with
    | dropped hm => exact hx _ hm
    | along _ ho hn ih =>
      by_contra hno
      exact hr _ ho hno _ (List.mem_append_left _ hn) ih
  have hkept : ∀ o ∈ c, ¬ p o.name → o.strip (downfall c c.length xs) = o := fun o ho hno =>
    strip_eq fun x hm hf => hr o ho hno x (List.mem_append_right _ hm) (hfall x hf)
  rw [mem_without]
  constructor
  · rintro ⟨o, ho, hf, rfl⟩
    have hno : ¬ p o.name := fun h => hf (hp o ho h)
    rw [hkept o ho hno]
    exact ⟨ho, hno⟩
  · rintro ⟨ho, hno⟩
    exact ⟨o, ho, fun hf => hno (hfall _ hf), hkept o ho hno⟩

/-! ## Drops without cascade -/

/-- The object still requires one of these when its turn comes, and has not been dropped before. -/
def hinders : List ω → Object ω π → Bool
  | [], _ => false
  | x :: xs, o => o.name ≠ x && (o.requires.any (· = x) || hinders xs o)

theorem dropIfExists_eq (h : Closed c) : dropIfExists x c =
    if c.any (fun o => o.name ≠ x && o.requires.any (· = x)) then none else some (c.filter fun o => o.name ≠ x) := by
  have hany : c.any (fun o => o.name ≠ x && o.requires.any (· = x)) = true ↔ ∃ o ∈ c, o.name ≠ x ∧ x ∈ o.requires := by
    simp
  unfold dropIfExists
  by_cases hx : x ∈ names c
  · simp only [hx, not_true_eq_false, if_false, hany]
  · have hnone : ¬ ∃ o ∈ c, o.name ≠ x ∧ x ∈ o.requires := by
      rintro ⟨o, ho, -, hm⟩
      exact hx (h o ho x hm)
    have hfilter : c.filter (fun o => o.name ≠ x) = c := by
      apply List.filter_eq_self.mpr
      intro o ho
      simpa using fun he => hx (mem_names.mpr ⟨o, ho, he⟩)
    rw [if_pos hx, if_neg (mt hany.mp hnone), hfilter]

theorem closed_filter (h : Closed c) (hn : c.any (fun o => o.name ≠ x && o.requires.any (· = x)) = false) :
    Closed (c.filter fun o => o.name ≠ x) := by
  intro o ho y hy
  obtain ⟨hoc, hox⟩ := List.mem_filter.mp ho
  obtain ⟨p, hp, rfl⟩ := mem_names.mp (h o hoc y hy)
  refine mem_names.mpr ⟨p, List.mem_filter.mpr ⟨hp, ?_⟩, rfl⟩
  have := List.any_eq_false.mp hn o hoc
  simp only [hox, Bool.true_and, List.any_eq_true, decide_eq_true_eq, exists_eq_right] at this
  exact decide_eq_true fun he => this (he ▸ hy)

theorem any_hinders_cons : c.any (hinders (x :: xs)) =
    (c.any (fun o => o.name ≠ x && o.requires.any (· = x)) || (c.filter fun o => o.name ≠ x).any (hinders xs)) := by
  rw [Bool.eq_iff_iff]
  simp [hinders, and_or_left, exists_or]

theorem filter_drops : (c.filter fun o => o.name ≠ x).filter (fun o => o.name ∉ xs) =
    c.filter fun o => o.name ∉ x :: xs := by
  rw [List.filter_filter]
  exact List.filter_congr fun o _ => by simp [Bool.and_comm]

theorem foldlM_dropIfExists (h : Closed c) : xs.foldlM (fun c x => dropIfExists x c) c =
    if c.any (hinders xs) then none else some (c.filter fun o => o.name ∉ xs) := by
  induction xs generalizing c with
  | nil => simp [hinders]
  | cons x xs ih =>
    rw [List.foldlM_cons, dropIfExists_eq h, any_hinders_cons]
    by_cases hn : c.any (fun o => o.name ≠ x && o.requires.any (· = x)) = true
    · rw [if_pos hn, hn]
      rfl
    · have hnone : c.any (fun o => o.name ≠ x && o.requires.any (· = x)) = false := by simpa using hn
      rw [if_neg hn, hnone, Bool.false_or, ← filter_drops]
      exact ih (closed_filter h hnone)

theorem closed_drops (h : Closed c) (hn : c.any (hinders xs) = false) : Closed (c.filter fun o => o.name ∉ xs) := by
  induction xs generalizing c with
  | nil => simpa using h
  | cons x xs ih =>
    rw [any_hinders_cons, Bool.or_eq_false_iff] at hn
    rw [← filter_drops]
    exact ih (closed_filter h hn.1) hn.2

/-! ## What is created -/

/-- The objects can be created in this order where the names are taken. -/
def creatable : List (Object ω π) → List ω → Bool
  | [], _ => true
  | o :: os, taken =>
    o.name ∉ taken && o.requires.all (· ∈ taken ++ [o.name]) && creatable os (taken ++ [o.name])

theorem createAll_eq {os : List (Object ω π)} (h : creatable os (names c) = true) :
    createAll os c = some (c ++ os) := by
  induction os generalizing c with
  | nil => simp [createAll]
  | cons o os ih =>
    simp only [creatable, Bool.and_eq_true, decide_eq_true_eq, List.all_eq_true] at h
    have hc : create o c = some (c ++ [o]) := by
      unfold create
      rw [if_pos h.1]
    have hn : names (c ++ [o]) = names c ++ [o.name] := by simp [names]
    have := ih (c := c ++ [o]) (by rw [hn]; exact h.2)
    unfold createAll at this ⊢
    rw [List.foldlM_cons, hc]
    simpa using this

theorem creatable_fresh {os : List (Object ω π)} {taken : List ω} (h : creatable os taken = true) :
    ∀ o ∈ os, o.name ∉ taken := by
  induction os generalizing taken with
  | nil => simp
  | cons o os ih =>
    simp only [creatable, Bool.and_eq_true, decide_eq_true_eq, List.all_eq_true] at h
    intro p hp
    rcases List.mem_cons.mp hp with rfl | hp
    · exact h.1.1
    · exact fun hm => ih h.2 p hp (List.mem_append_left _ hm)

/-- Where more names are taken, and none of theirs, they can be created as well. -/
theorem creatable_mono {os : List (Object ω π)} {taken taken' : List ω} (h : creatable os taken = true)
    (hs : ∀ x ∈ taken, x ∈ taken') (hf : ∀ o ∈ os, o.name ∉ taken') : creatable os taken' = true := by
  induction os generalizing taken taken' with
  | nil => rfl
  | cons o os ih =>
    simp only [creatable, Bool.and_eq_true, decide_eq_true_eq, List.all_eq_true] at h ⊢
    refine ⟨⟨hf o List.mem_cons_self, fun x hx => ?_⟩, ih h.2 ?_ ?_⟩
    · exact (List.mem_append.mp (h.1.2 x hx)).elim (fun hm => List.mem_append_left _ (hs x hm))
        (List.mem_append_right _)
    · intro x hx
      exact (List.mem_append.mp hx).elim (fun hm => List.mem_append_left _ (hs x hm)) (List.mem_append_right _)
    · intro p hp hm
      rcases List.mem_append.mp hm with hm | hm
      · exact hf p (List.mem_cons_of_mem _ hp) hm
      · exact creatable_fresh h.2 p hp (List.mem_append_right _ hm)

theorem names_append (c os : List (Object ω π)) : names (c ++ os) = names c ++ names os := List.map_append

theorem closed_append {os : List (Object ω π)} (h : Closed c) (ho : creatable os (names c) = true) :
    Closed (c ++ os) := by
  induction os generalizing c with
  | nil => simpa using h
  | cons o os ih =>
    simp only [creatable, Bool.and_eq_true, decide_eq_true_eq, List.all_eq_true] at ho
    have hone : Closed (c ++ [o]) := by
      intro p hp x hx
      rw [names_append]
      rcases List.mem_append.mp hp with hp | hp
      · exact List.mem_append_left _ (h p hp x hx)
      · obtain rfl := List.mem_singleton.mp hp
        exact ho.1.2 x hx
    have := ih hone (by rw [names_append]; exact ho.2)
    simpa using this

end

end StayApi.Catalog
