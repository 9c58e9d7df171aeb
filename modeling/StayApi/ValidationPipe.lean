import StayApi.ApiError
import StayApi.Delimited

/-!
# The validation pipe

`validation.pipe.ts`. The errors of class-validator form trees, one node for
each property; the pipe files the nodes that violate a constraint under their
dotted paths.
-/

namespace StayApi

inductive ValidationError where
  | mk (property : String) (constraints : Option (List (String × String))) (children : Option (List ValidationError))

namespace ValidationError

def property : ValidationError → String
  | mk property _ _ => property

def constraints : ValidationError → Option (List (String × String))
  | mk _ constraints _ => constraints

def children : ValidationError → List ValidationError
  | mk _ _ children => children.getD []

end ValidationError

namespace CustomValidationPipe

def propertyPath (pre property : String) : String := if pre = "" then property else pre ++ "." ++ property

mutual
def processValidationError : ValidationError → OrdMap String String → String → OrdMap String String
  | .mk property constraints children, details, pre =>
    let path := propertyPath pre property
    let details := if constraints.isSome then details.assign path "invalid" else details
    match children with
    | some (child :: rest) => processValidationErrors (child :: rest) details path
    | _ => details

/-- The `forEach` over the errors of one level. -/
def processValidationErrors : List ValidationError → OrdMap String String → String → OrdMap String String
  | [], details, _ => details
  | error :: errors, details, pre => processValidationErrors errors (processValidationError error details pre) pre
end

def getExceptionObj (validationErrors : List ValidationError) : Except ApiError ApiErrorResponse :=
  if validationErrors.length = 0 then
    .error (.new ⟨.INTERNAL_SERVER_ERROR, some (OrdMap.empty.set "error_id" "302ce322-5063-4d09-a3dc-78f0770d0c97"), none⟩)
  else
    .ok ⟨.INVALID_ARGUMENT_ERROR, some (processValidationErrors validationErrors .empty ""), none⟩

/-! ## Nodes and their paths -/

/-- The node at an address, the list of its positions among its siblings from the top, with the names on its path. -/
inductive NodeAt : List ValidationError → List Nat → List String → ValidationError → Prop where
  | here {errors i error} : errors[i]? = some error → NodeAt errors [i] [error.property] error
  | child {errors i error address names node} : errors[i]? = some error → NodeAt error.children address names node →
      NodeAt errors (i :: address) (error.property :: names) node

structure ProperName (s : String) : Prop where
  nonempty : s ≠ ""
  undotted : '.' ∉ s.toList
  proto : s ≠ "__proto__"

/-- Siblings have distinct names at every level, and every name is proper. -/
inductive WellNamed : List ValidationError → Prop where
  | mk {errors} : (errors.map ValidationError.property).Nodup → (∀ e ∈ errors, ProperName e.property) →
      (∀ e ∈ errors, WellNamed e.children) → WellNamed errors

def dotted (names : List String) : String := ".".intercalate names

theorem dot_toList : ".".toList = ['.'] := by decide

/-- The keys of the constrained nodes, below the names `above`. -/
def Constrained (above : List String) (errors : List ValidationError) (key : String) : Prop :=
  ∃ address names node, NodeAt errors address names node ∧ node.constraints.isSome ∧ key = dotted (above ++ names)

/-- The entries are `'invalid'` under the keys in `p`, and no others. -/
def Marks (details : OrdMap String String) (p : String → Prop) : Prop :=
  ∀ key text, details.get key = some text ↔ text = "invalid" ∧ p key

section
variable {errors : List ValidationError} {above names : List String} {d : OrdMap String String} {p q : String → Prop}

theorem constrained_iff (key : String) : Constrained above errors key ↔
    ∃ e ∈ errors, (e.constraints.isSome ∧ key = dotted (above ++ [e.property])) ∨
      Constrained (above ++ [e.property]) e.children key := by
  constructor
  · rintro ⟨address, names, node, hnode, hc, rfl⟩
    cases hnode with
    | here hi => exact ⟨node, List.mem_of_getElem? hi, .inl ⟨hc, rfl⟩⟩
    | @child _ i error address names _ hi hbelow =>
      refine ⟨error, List.mem_of_getElem? hi, .inr ⟨address, names, node, hbelow, hc, ?_⟩⟩
      rw [List.append_assoc, List.singleton_append]
  · rintro ⟨e, he, h⟩
    obtain ⟨i, hi⟩ := List.getElem?_of_mem he
    obtain ⟨hc, rfl⟩ | ⟨address, names, node, hnode, hc, rfl⟩ := h
    · exact ⟨[i], [e.property], e, .here hi, hc, rfl⟩
    · refine ⟨i :: address, e.property :: names, node, .child hi hnode, hc, ?_⟩
      rw [List.append_assoc, List.singleton_append]

theorem marks_empty : Marks .empty (fun _ => False) := by
  intro key text
  simp

theorem Marks.congr (h : Marks d p) (hpq : ∀ key, p key ↔ q key) : Marks d q := by
  intro key text
  rw [h key text, hpq key]

theorem marks_assign (h : Marks d p) {path : String} (hp : path ≠ "__proto__") :
    Marks (d.assign path "invalid") (fun key => p key ∨ key = path) := by
  intro key text
  rw [OrdMap.assign, if_neg hp, OrdMap.get_set]
  by_cases hk : key = path
  · simp [hk, eq_comm]
  · simp [hk, h key text]

theorem propertyPath_dotted (ha : ∀ s ∈ above, ProperName s) (property : String) :
    propertyPath (dotted above) property = dotted (above ++ [property]) := by
  unfold propertyPath dotted
  by_cases h : above = []
  · simp [h]
  · rw [if_neg (Delimited.intercalate_ne_empty h fun s hs => (ha s hs).nonempty), Delimited.intercalate_snoc h]

theorem dotted_ne_proto (hn : names ≠ []) (h : ∀ s ∈ names, ProperName s) : dotted names ≠ "__proto__" := by
  intro he
  have hone : names = ["__proto__"] := by
    refine Delimited.intercalate_injective dot_toList hn (by simp) (fun s hs => (h s hs).undotted) ?_ ?_
    · intro s hs
      rw [List.mem_singleton.mp hs]
      decide
    · rw [String.intercalate_singleton]
      exact he
  exact (h "__proto__" (by simp [hone])).proto rfl

theorem processValidationError_eq (e : ValidationError) (d : OrdMap String String) (pre : String) :
    processValidationError e d pre = processValidationErrors e.children
      (if e.constraints.isSome then d.assign (propertyPath pre e.property) "invalid" else d)
      (propertyPath pre e.property) := by
  obtain ⟨property, constraints, children⟩ := e
  rcases children with _ | _ | ⟨child, rest⟩
  · rw [processValidationError, ValidationError.children, Option.getD_none, processValidationErrors]
    · rfl
    · simp
  · rw [processValidationError, ValidationError.children, Option.getD_some, processValidationErrors]
    · rfl
    · simp
  · rw [processValidationError]
    rfl

theorem marks_forEach {pre : String} {q : ValidationError → String → Prop}
    (hstep : ∀ e ∈ errors, ∀ d p, Marks d p → Marks (processValidationError e d pre) (fun key => p key ∨ q e key))
    (h : Marks d p) : Marks (processValidationErrors errors d pre) (fun key => p key ∨ ∃ e ∈ errors, q e key) := by
  induction errors generalizing d p with
  | nil =>
    rw [processValidationErrors]
    exact h.congr (by simp)
  | cons e errors ih =>
    rw [processValidationErrors]
    have hhead := hstep e List.mem_cons_self d p h
    have htail := ih (fun e' he' => hstep e' (List.mem_cons_of_mem _ he')) hhead
    exact htail.congr (by simp [or_assoc])

/-- The whole forest below `above` marks the keys of its constrained nodes. -/
theorem marks_processValidationErrors (hn : WellNamed errors) (ha : ∀ s ∈ above, ProperName s) (h : Marks d p) :
    Marks (processValidationErrors errors d (dotted above)) (fun key => p key ∨ Constrained above errors key) := by
  induction hn generalizing above d p with
  | @mk errors distinct proper children ih =>
    have hstep : ∀ e ∈ errors, ∀ d p, Marks d p → Marks (processValidationError e d (dotted above)) (fun key =>
        p key ∨ ((e.constraints.isSome ∧ key = dotted (above ++ [e.property])) ∨
          Constrained (above ++ [e.property]) e.children key)) := by
      intro e he d p h
      have hpath : ∀ s ∈ above ++ [e.property], ProperName s := by
        simpa [or_imp, forall_and] using ⟨ha, proper e he⟩
      rw [processValidationError_eq, propertyPath_dotted ha]
      by_cases hc : e.constraints.isSome
      · rw [if_pos hc]
        have hown := marks_assign h (dotted_ne_proto (by simp) hpath)
        exact (ih e he hpath hown).congr (by simp [hc, or_assoc])
      · rw [if_neg hc]
        exact (ih e he hpath h).congr (by simp [hc])
    exact (marks_forEach hstep h).congr fun key => by rw [constrained_iff]

/-! ## No two nodes share a key -/

theorem NodeAt.names_proper {address : List Nat} {node : ValidationError} (hn : WellNamed errors)
    (h : NodeAt errors address names node) : names ≠ [] ∧ ∀ s ∈ names, ProperName s := by
  induction h with
  | @here errors i error hi =>
    obtain ⟨-, proper, -⟩ := hn
    exact ⟨by simp, by simpa using proper error (List.mem_of_getElem? hi)⟩
  | @child errors i error address names node hi _ ih =>
    obtain ⟨-, proper, children⟩ := hn
    have hmem := List.mem_of_getElem? hi
    exact ⟨by simp, by simpa using ⟨proper error hmem, (ih (children error hmem)).2⟩⟩

theorem same_sibling (hd : (errors.map ValidationError.property).Nodup) {i j : Nat} {e e' : ValidationError}
    (hi : errors[i]? = some e) (hj : errors[j]? = some e') (h : e.property = e'.property) : i = j := by
  have hlt : i < errors.length := (List.getElem?_eq_some_iff.mp hi).1
  apply (List.getElem?_inj (by simpa using hlt) hd).mp
  rw [List.getElem?_map, List.getElem?_map, hi, hj, Option.map_some, Option.map_some, h]

theorem NodeAt.address_unique {a a' : List Nat} {node node' : ValidationError} (hn : WellNamed errors)
    (h : NodeAt errors a names node) (h' : NodeAt errors a' names node') : a = a' := by
  induction h generalizing a' with
  | @here errors i error hi =>
    obtain ⟨distinct, -, children⟩ := hn
    generalize hnames : [error.property] = names at h'
    cases h' with
    | here hj => rw [same_sibling distinct hi hj (List.cons.inj hnames).1]
    | @child _ j error' _ names _ hj hbelow =>
      have hnil := (hbelow.names_proper (children error' (List.mem_of_getElem? hj))).1
      exact absurd (List.cons.inj hnames).2.symm hnil
  | @child errors i error address names node hi hbelow ih =>
    obtain ⟨distinct, -, children⟩ := hn
    have hwell := children error (List.mem_of_getElem? hi)
    generalize hnames : error.property :: names = path at h'
    cases h' with
    | here hj => exact absurd (List.cons.inj hnames).2 (hbelow.names_proper hwell).1
    | @child _ j error' address' names' _ hj hbelow' =>
      obtain ⟨hname, rfl⟩ := List.cons.inj hnames
      obtain rfl := same_sibling distinct hi hj hname
      obtain rfl : error = error' := Option.some.inj (hi.symm.trans hj)
      rw [ih hwell hbelow']

theorem NodeAt.key_unique {names' : List String} {a a' : List Nat} {node node' : ValidationError} (hn : WellNamed errors)
    (h : NodeAt errors a names node) (h' : NodeAt errors a' names' node') (hk : dotted names = dotted names') : a = a' := by
  obtain ⟨hne, hproper⟩ := h.names_proper hn
  obtain ⟨hne', hproper'⟩ := h'.names_proper hn
  obtain rfl := Delimited.intercalate_injective dot_toList hne hne' (fun s hs => (hproper s hs).undotted)
    (fun s hs => (hproper' s hs).undotted) hk
  exact h.address_unique hn h'

end

/-- The details' keys are the paths of the constrained nodes, one key for each. -/
theorem details_flatten (errors : List ValidationError) (hne : errors ≠ []) (hn : WellNamed errors) :
    ∃ details, getExceptionObj errors = .ok ⟨.INVALID_ARGUMENT_ERROR, some details, none⟩ ∧
      (∀ key text, details.get key = some text ↔ text = "invalid" ∧
        ∃ address names node, NodeAt errors address names node ∧ node.constraints.isSome ∧ key = ".".intercalate names) ∧
      ∀ a a' names names' node node', NodeAt errors a names node → NodeAt errors a' names' node' →
        ".".intercalate names = ".".intercalate names' → a = a' := by
  refine ⟨processValidationErrors errors .empty "", ?_, ?_, ?_⟩
  · rw [getExceptionObj, if_neg (by simpa using hne)]
  · have h : Marks (processValidationErrors errors .empty (dotted [])) (fun key => False ∨ Constrained [] errors key) :=
      marks_processValidationErrors hn (by simp) marks_empty
    exact h.congr (by simp [Constrained, dotted])
  · intro a a' names names' node node' h h' hk
    exact h.key_unique hn h' hk

def cityError : ValidationError := .mk "city" (some [("isString", "city must be a string")]) none
def addressError : ValidationError := .mk "address" none (some [cityError])
def stayErrors : List ValidationError := [addressError, .mk "name" (some [("isNotEmpty", "name should not be empty")]) (some [])]

theorem stayErrors_wellNamed : WellNamed stayErrors := by
  have hleaf : WellNamed [] := .mk (by simp) (by simp) (by simp)
  have hcity : WellNamed [cityError] := by
    refine .mk (by simp) ?_ ?_
    · simpa [cityError, ValidationError.property] using ⟨by decide, by decide, by decide⟩
    · simpa [cityError, ValidationError.children] using hleaf
  refine .mk (by decide) ?_ ?_
  · simpa [stayErrors, addressError, ValidationError.property] using
      ⟨⟨by decide, by decide, by decide⟩, by decide, by decide, by decide⟩
  · simpa [stayErrors, addressError, ValidationError.children] using ⟨hcity, hleaf⟩

theorem details_flatten_nested : ∃ details,
    getExceptionObj stayErrors = .ok ⟨.INVALID_ARGUMENT_ERROR, some details, none⟩ ∧
      details.get "address.city" = some "invalid" := by
  obtain ⟨details, hok, hkeys, -⟩ := details_flatten stayErrors (by simp [stayErrors]) stayErrors_wellNamed
  have hcity : NodeAt stayErrors [0, 0] ["address", "city"] cityError :=
    .child (show stayErrors[0]? = some addressError from rfl) (.here (show addressError.children[0]? = some cityError from rfl))
  exact ⟨details, hok, (hkeys _ _).mpr ⟨rfl, [0, 0], _, _, hcity, rfl, by decide⟩⟩

end CustomValidationPipe

end StayApi
