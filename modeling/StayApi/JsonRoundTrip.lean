import StayApi.JsonText

/-!
# Reading back what was written

`parse_stringify`: the text of a well-formed value is read as that value.
`wellFormed_of_parse`: only well-formed values are read.
-/

namespace StayApi

theorem run_step {S E : Type} {step : S → E → Option S} {s t : S} {e : E} (h : step s e = some t) (es : List E) :
    run step s (e :: es) = run step t es := by
  simp only [run, h]

namespace JsonText

/-! ## Numbers -/

section
variable {text cs : List Char} {c : Char}

theorem isWord_of_isDigit (h : c.isDigit = true) : isWord c = true := by
  simp [isWord, h]

theorem isWord_of_isE (h : Numeral.isE c = true) : isWord c = true := by
  simp only [Numeral.isE, Bool.or_eq_true, decide_eq_true_eq] at h
  rcases h with rfl | rfl <;> decide

theorem isWord_of_step {s s' : Numeral} (h : s.step c = some s') : isWord c = true := by
  by_contra hc
  have hd : c.isDigit = false := by
    by_contra hd
    exact hc (isWord_of_isDigit (by simpa using hd))
  have he : Numeral.isE c = false := by
    by_contra he
    exact hc (isWord_of_isE (by simpa using he))
  have hne : ∀ d, isWord d = true → c ≠ d := fun d hd hcd => hc (hcd ▸ hd)
  have hm := hne '-' (by decide)
  have hp := hne '+' (by decide)
  have hz := hne '0' (by decide)
  have hdot := hne '.' (by decide)
  cases s <;> simp [Numeral.step, hd, he, hm, hp, hz, hdot] at h

theorem isWord_of_run {s s' : Numeral} (h : run Numeral.step s text = some s') : ∀ c ∈ text, isWord c = true := by
  induction text generalizing s with
  | nil => simp
  | cons c text ih =>
    obtain ⟨t, ht, h⟩ := run_cons h
    exact List.forall_mem_cons.mpr ⟨isWord_of_step ht, ih h⟩

theorem isWord_of_isNumber (h : isNumber text = true) : ∀ c ∈ text, isWord c = true := by
  unfold isNumber at h
  cases hr : run Numeral.step .start text with
  | none =>
    rw [hr] at h
    cases h
  | some s => exact isWord_of_run hr

theorem wordToken_number (h : isNumber text = true) : wordToken text = some (.num (String.ofList text)) := by
  have hne : ∀ t, isNumber t = false → text ≠ t := by
    rintro t ht rfl
    rw [h] at ht
    cases ht
  unfold wordToken
  rw [if_neg (hne _ (by decide)), if_neg (hne _ (by decide)), if_neg (hne _ (by decide)), if_pos h]

end

/-! ## Strings -/

section
variable {text cs : List Char} {ts : List Token}

theorem unescape_escapes : ∀ e ∈ escapes, unescape e.2 = some e.1 ∧ e.2 ≠ 'u' := by decide

theorem hexValue_hexDigit {n : Nat} (h : n < 16) : hexValue (hexDigit n) = some n := by
  have : ∀ n : Fin 16, hexValue (hexDigit n) = some n.val := by decide
  exact this ⟨n, h⟩

theorem codeUnit_char (c : Char) (h : c.toNat < 32) : codeUnit text c.toNat = .string (text ++ [c]) := by
  unfold codeUnit
  rw [if_neg (by omega), if_neg (by omega), Char.ofNat_toNat]

theorem scan_escape (c : Char) :
    run scanStep ⟨.string text, ts⟩ (escape c ++ cs) = run scanStep ⟨.string (text ++ [c]), ts⟩ cs := by
  unfold escape
  cases hl : escapes.lookup c with
  | some letter =>
    have hm : (c, letter) ∈ escapes := by
      obtain ⟨l₁, l₂, he, -⟩ := List.lookup_eq_some_iff.mp hl
      simp [he]
    obtain ⟨hu, hne⟩ := unescape_escapes (c, letter) hm
    have h1 : scanStep ⟨.string text, ts⟩ '\\' = some ⟨.escape text none, ts⟩ := rfl
    have h2 : scanStep ⟨.escape text none, ts⟩ letter = some ⟨.string (text ++ [c]), ts⟩ := by
      simp only [scanStep, inEscape, if_neg hne, hu, Option.map_some]
    exact (run_step h1 _).trans (run_step h2 _)
  | none =>
    dsimp only
    by_cases hc : c.toNat < 32
    · rw [if_pos hc]
      have hx := hexValue_hexDigit (n := c.toNat / 16) (by omega)
      have hy := hexValue_hexDigit (n := c.toNat % 16) (by omega)
      have h0 : hexValue '0' = some 0 := by decide
      have hn : 4096 * 0 + 256 * 0 + 16 * (c.toNat / 16) + c.toNat % 16 = c.toNat := by omega
      have h1 : scanStep ⟨.string text, ts⟩ '\\' = some ⟨.escape text none, ts⟩ := rfl
      have h2 : scanStep ⟨.escape text none, ts⟩ 'u' = some ⟨.hex text none [], ts⟩ := rfl
      have h3 : scanStep ⟨.hex text none [], ts⟩ '0' = some ⟨.hex text none [0], ts⟩ := by
        simp [scanStep, inHex, h0]
      have h4 : scanStep ⟨.hex text none [0], ts⟩ '0' = some ⟨.hex text none [0, 0], ts⟩ := by
        simp [scanStep, inHex, h0]
      have h5 : scanStep ⟨.hex text none [0, 0], ts⟩ (hexDigit (c.toNat / 16)) =
          some ⟨.hex text none [0, 0, c.toNat / 16], ts⟩ := by
        simp [scanStep, inHex, hx]
      have h6 : scanStep ⟨.hex text none [0, 0, c.toNat / 16], ts⟩ (hexDigit (c.toNat % 16)) =
          some ⟨.string (text ++ [c]), ts⟩ := by
        simp only [scanStep, inHex, hy, Option.map_some, codeUnitAfter, hn, codeUnit_char c hc]
      exact (run_step h1 _).trans ((run_step h2 _).trans ((run_step h3 _).trans ((run_step h4 _).trans
        ((run_step h5 _).trans (run_step h6 _)))))
    · rw [if_neg hc]
      have hne : ∀ d, (escapes.lookup d).isSome = true → c ≠ d := by
        rintro d hd rfl
        rw [hl] at hd
        cases hd
      have h1 : scanStep ⟨.string text, ts⟩ c = some ⟨.string (text ++ [c]), ts⟩ := by
        simp only [scanStep, inString, if_neg (hne '"' (by decide)), if_neg (hne '\\' (by decide)), if_neg hc]
      exact run_step h1 _

theorem scan_string (s : List Char) :
    run scanStep ⟨.string text, ts⟩ (s.flatMap escape ++ '"' :: cs) =
      run scanStep ⟨.between, ts ++ [.str (String.ofList (text ++ s))]⟩ cs := by
  induction s generalizing text with
  | nil =>
    rw [List.append_nil]
    rfl
  | cons c s ih => rw [List.flatMap_cons, List.append_assoc, scan_escape, ih, List.append_assoc, List.singleton_append]

end

/-! ## Tokens -/

namespace Token

def written : Token → Bool
  | num text => isNumber text.toList
  | _ => true

def isWordy : Token → Bool
  | null => true
  | bool _ => true
  | num _ => true
  | _ => false

end Token

def scanFrom (ts : List Token) (cs : List Char) : Option (List Token) := (run scanStep ⟨.between, ts⟩ cs).bind scanned

/-- The text is empty, or goes on with a character of no word. -/
def Breaks (cs : List Char) : Prop := ∀ c ∈ cs.head?, isWord c = false

section
variable {w text cs : List Char} {ts us : List Token} {t : Token}

theorem scan_more (hw : ∀ c ∈ w, isWord c = true) :
    run scanStep ⟨.word text, ts⟩ (w ++ cs) = run scanStep ⟨.word (text ++ w), ts⟩ cs := by
  induction w generalizing text with
  | nil => rw [List.append_nil, List.nil_append]
  | cons c w ih =>
    obtain ⟨hc, hw⟩ := List.forall_mem_cons.mp hw
    have h1 : scanStep ⟨.word text, ts⟩ c = some ⟨.word (text ++ [c]), ts⟩ := by
      simp only [scanStep, hc, if_true]
    rw [List.cons_append, run_step h1, ih hw, List.append_assoc, List.singleton_append]

theorem scan_wordEnd (ht : wordToken text = some t) (hb : Breaks cs) :
    (run scanStep ⟨.word text, ts⟩ cs).bind scanned = scanFrom (ts ++ [t]) cs := by
  cases cs with
  | nil => simp [run, scanned, scanFrom, ht]
  | cons c cs =>
    have hc : isWord c = false := hb c rfl
    have hs : scanStep ⟨.word text, ts⟩ c = scanStep ⟨.between, ts ++ [t]⟩ c := by
      simp [scanStep, hc, ht]
    unfold scanFrom
    simp only [run, hs]

theorem scan_word (hw : ∀ c ∈ w, isWord c = true) (ht : wordToken w = some t) (hn : w ≠ []) (hb : Breaks cs) :
    scanFrom ts (w ++ cs) = scanFrom (ts ++ [t]) cs := by
  obtain ⟨c, w, rfl⟩ := List.exists_cons_of_ne_nil hn
  obtain ⟨hc, hw'⟩ := List.forall_mem_cons.mp hw
  have hne : ∀ d, isWord d = false → c ≠ d := by
    rintro d hd rfl
    rw [hc] at hd
    cases hd
  have hs : isSpace c = false := by
    simp [isSpace, hne ' ' (by decide), hne '\t' (by decide), hne '\n' (by decide), hne '\r' (by decide)]
  have h1 : scanStep ⟨.between, ts⟩ c = some ⟨.word [c], ts⟩ := by
    simp [scanStep, between, hs, hne '"' (by decide), hc]
  rw [← scan_wordEnd ht hb]
  unfold scanFrom
  rw [List.cons_append, run_step h1, scan_more hw', List.singleton_append]

theorem scan_literal (hw : w.all isWord = true) (ht : wordToken w = some t) (hn : w ≠ []) (hb : Breaks cs) :
    scanFrom ts (w ++ cs) = scanFrom (ts ++ [t]) cs :=
  scan_word (List.all_eq_true.mp hw) ht hn hb

theorem scan_spell (ht : t.written = true) (hb : t.isWordy = true → Breaks cs) :
    scanFrom ts (spell t ++ cs) = scanFrom (ts ++ [t]) cs := by
  cases t with
  | null => exact scan_literal (by decide) (by decide) (by decide) (hb rfl)
  | bool b => cases b <;> exact scan_literal (by decide) (by decide) (by decide) (hb rfl)
  | num text =>
    have hw : wordToken text.toList = some (.num text) := by
      rw [wordToken_number ht, String.ofList_toList]
    refine scan_word (isWord_of_isNumber ht) hw ?_ (hb rfl)
    intro hn
    have hs : isNumber text.toList = true := ht
    rw [show text.toList = [] from hn] at hs
    exact absurd hs (by decide)
  | str s =>
    have h1 : scanStep ⟨.between, ts⟩ '"' = some ⟨.string [], ts⟩ := rfl
    unfold scanFrom
    simp only [spell, List.cons_append, List.append_assoc]
    rw [run_step h1, List.nil_append, scan_string, List.nil_append, String.ofList_toList]
  | openArray => rfl
  | closeArray => rfl
  | openObject => rfl
  | closeObject => rfl
  | comma => rfl
  | colon => rfl

end

/-- These tokens are scanned from the way they are spelled. -/
def Scans (us : List Token) : Prop := ∀ ts, scanFrom ts (us.flatMap spell) = some (ts ++ us)

/-- What may follow a word. -/
def Separate (us : List Token) : Prop := ∀ t ∈ us.head?, t.isWordy = false

section
variable {t : Token} {us : List Token}

theorem breaks_spell (h : t.isWordy = false) (cs : List Char) : Breaks (spell t ++ cs) := by
  intro c hc
  cases t with
  | null => cases h
  | bool b => cases h
  | num text => cases h
  | str s =>
    obtain rfl := Option.some.inj hc
    decide
  | openArray | closeArray | openObject | closeObject | comma | colon =>
    obtain rfl := Option.some.inj hc
    decide

theorem breaks_spelled (h : Separate us) : Breaks (us.flatMap spell) := by
  cases us with
  | nil =>
    intro c hc
    cases hc
  | cons t us => exact breaks_spell (h t rfl) _

theorem scans_nil : Scans [] := fun ts => congrArg some (List.append_nil ts).symm

theorem scans_cons (ht : t.written = true) (hs : t.isWordy = true → Separate us) (h : Scans us) : Scans (t :: us) := by
  intro ts
  rw [List.flatMap_cons, scan_spell ht fun hw => breaks_spelled (hs hw), h, List.append_assoc, List.singleton_append]

theorem scans_mark (ht : t.isWordy = false) (h : Scans us) : Scans (t :: us) := by
  refine scans_cons ?_ (fun hw => by rw [ht] at hw; cases hw) h
  cases t with
  | num text => cases ht
  | _ => rfl

theorem separate_mark (h : t.isWordy = false) : Separate (t :: us) := by
  intro u hu
  obtain rfl := Option.some.inj hu
  exact h

theorem separate_moreElements (xs : List Json) (h : Separate us) : Separate (moreElements xs ++ us) := by
  cases xs with
  | nil => exact h
  | cons x xs => exact separate_mark rfl

theorem separate_moreMembers (fields : List (String × Json)) (h : Separate us) :
    Separate (moreMembers fields ++ us) := by
  cases fields with
  | nil => exact h
  | cons e fields => exact separate_mark rfl

end

mutual
theorem scans_tokens {us : List Token} (hs : Separate us) (h : Scans us) :
    ∀ v : Json, wellFormed v = true → Scans (tokens v ++ us)
  | .null, _ => scans_cons rfl (fun _ => hs) h
  | .bool b, _ => scans_cons rfl (fun _ => hs) h
  | .num text, hv => scans_cons hv (fun _ => hs) h
  | .str s, _ => scans_mark rfl h
  | .arr [], _ => scans_mark rfl (scans_mark rfl h)
  | .arr (x :: xs), hv => by
    obtain ⟨hx, hxs⟩ := Bool.and_eq_true_iff.mp hv
    have hend : Scans (.closeArray :: us) := scans_mark rfl h
    have hmore := scans_moreElements (separate_mark rfl) hend xs hxs
    have := scans_tokens (separate_moreElements xs (separate_mark rfl)) hmore x hx
    simpa [tokens] using scans_mark (t := .openArray) rfl this
  | .obj [], _ => scans_mark rfl (scans_mark rfl h)
  | .obj ((key, x) :: fields), hv => by
    obtain ⟨hx, hfields⟩ := Bool.and_eq_true_iff.mp (Bool.and_eq_true_iff.mp hv).2
    have hend : Scans (.closeObject :: us) := scans_mark rfl h
    have hmore := scans_moreMembers (separate_mark rfl) hend fields hfields
    have := scans_tokens (separate_moreMembers fields (separate_mark rfl)) hmore x hx
    have hkey : Scans (.str key :: .colon :: (tokens x ++ (moreMembers fields ++ .closeObject :: us))) :=
      scans_mark rfl (scans_mark rfl this)
    simpa [tokens] using scans_mark (t := .openObject) rfl hkey

theorem scans_moreElements {us : List Token} (hs : Separate us) (h : Scans us) :
    ∀ xs : List Json, elementsWellFormed xs = true → Scans (moreElements xs ++ us)
  | [], _ => h
  | x :: xs, hv => by
    obtain ⟨hx, hxs⟩ := Bool.and_eq_true_iff.mp hv
    have := scans_tokens (separate_moreElements xs hs) (scans_moreElements hs h xs hxs) x hx
    simpa [moreElements] using scans_mark (t := .comma) rfl this

theorem scans_moreMembers {us : List Token} (hs : Separate us) (h : Scans us) :
    ∀ fields : List (String × Json), fieldsWellFormed fields = true → Scans (moreMembers fields ++ us)
  | [], _ => h
  | (key, x) :: fields, hv => by
    obtain ⟨hx, hfields⟩ := Bool.and_eq_true_iff.mp hv
    have := scans_tokens (separate_moreMembers fields hs) (scans_moreMembers hs h fields hfields) x hx
    have hkey : Scans (.str key :: .colon :: (tokens x ++ (moreMembers fields ++ us))) :=
      scans_mark rfl (scans_mark rfl this)
    simpa [moreMembers] using scans_mark (t := .comma) rfl hkey
end

/-! ## Reading -/

theorem run_firstElement (v : Json) (stack : List Context) (us : List Token) :
    run readStep ⟨.firstElement, stack⟩ (tokens v ++ us) =
      run readStep ⟨.value, .arr [] :: stack⟩ (tokens v ++ us) := by
  match v with
  | .null => rfl
  | .bool b => rfl
  | .num text => rfl
  | .str s => rfl
  | .arr [] => rfl
  | .arr (x :: xs) => rfl
  | .obj [] => rfl
  | .obj ((key, x) :: fields) => rfl

theorem upsert_new {key : String} {v : Json} {fields : List (String × Json)} (h : key ∉ fields.map Prod.fst) :
    OrdMap.upsert key v fields = fields ++ [(key, v)] := by
  induction fields with
  | nil => rfl
  | cons e fields ih =>
    obtain ⟨hne, hn⟩ := not_or.mp (fun hm => h (List.mem_cons.mpr hm))
    rw [OrdMap.upsert, if_neg (Ne.symm hne), ih hn, List.cons_append]

mutual
theorem run_tokens (us : List Token) :
    ∀ v : Json, wellFormed v = true → ∀ stack : List Context,
      run readStep ⟨.value, stack⟩ (tokens v ++ us) = run readStep (deliver v stack) us
  | .null, _, _ => rfl
  | .bool b, _, _ => rfl
  | .num text, _, _ => rfl
  | .str s, _, _ => rfl
  | .arr [], _, _ => rfl
  | .arr (x :: xs), hv, stack => by
    obtain ⟨hx, hxs⟩ := Bool.and_eq_true_iff.mp hv
    have h1 : readStep ⟨.value, stack⟩ .openArray = some ⟨.firstElement, stack⟩ := rfl
    simp only [tokens, List.cons_append, List.append_assoc, List.nil_append]
    rw [run_step h1, run_firstElement, run_tokens _ x hx, deliver, run_moreElements us xs hxs]
    rfl
  | .obj [], _, _ => rfl
  | .obj ((key, x) :: fields), hv, stack => by
    obtain ⟨hn, hv⟩ := Bool.and_eq_true_iff.mp hv
    obtain ⟨hx, hfields⟩ := Bool.and_eq_true_iff.mp hv
    have h1 : readStep ⟨.value, stack⟩ .openObject = some ⟨.firstMember, stack⟩ := rfl
    have h2 : readStep ⟨.firstMember, stack⟩ (.str key) = some ⟨.colon [] key, stack⟩ := rfl
    have h3 : readStep ⟨.colon [] key, stack⟩ .colon = some ⟨.value, .obj [] key :: stack⟩ := rfl
    have hput : OrdMap.upsert key x [] = [(key, x)] := rfl
    simp only [tokens, List.cons_append, List.append_assoc, List.nil_append]
    rw [run_step h1, run_step h2, run_step h3, run_tokens _ x hx, deliver, hput,
      run_moreMembers us fields hfields [(key, x)] stack (of_decide_eq_true hn)]
    rfl

theorem run_moreElements (us : List Token) :
    ∀ xs : List Json, elementsWellFormed xs = true → ∀ (ys : List Json) (stack : List Context),
      run readStep ⟨.nextElement ys, stack⟩ (moreElements xs ++ .closeArray :: us) =
        run readStep (deliver (.arr (ys ++ xs)) stack) us
  | [], _, ys, stack => by
    rw [List.append_nil]
    rfl
  | x :: xs, hv, ys, stack => by
    obtain ⟨hx, hxs⟩ := Bool.and_eq_true_iff.mp hv
    have h1 : readStep ⟨.nextElement ys, stack⟩ .comma = some ⟨.value, .arr ys :: stack⟩ := rfl
    simp only [moreElements, List.cons_append, List.append_assoc]
    rw [run_step h1, run_tokens _ x hx, deliver, run_moreElements us xs hxs, List.append_assoc, List.singleton_append]

theorem run_moreMembers (us : List Token) :
    ∀ fields : List (String × Json), fieldsWellFormed fields = true →
      ∀ (done : List (String × Json)) (stack : List Context), ((done ++ fields).map Prod.fst).Nodup →
      run readStep ⟨.nextMember done, stack⟩ (moreMembers fields ++ .closeObject :: us) =
        run readStep (deliver (.obj (done ++ fields)) stack) us
  | [], _, done, stack, _ => by
    rw [List.append_nil]
    rfl
  | (key, x) :: fields, hv, done, stack, hn => by
    obtain ⟨hx, hfields⟩ := Bool.and_eq_true_iff.mp hv
    have h1 : readStep ⟨.nextMember done, stack⟩ .comma = some ⟨.member done, stack⟩ := rfl
    have h2 : readStep ⟨.member done, stack⟩ (.str key) = some ⟨.colon done key, stack⟩ := rfl
    have h3 : readStep ⟨.colon done key, stack⟩ .colon = some ⟨.value, .obj done key :: stack⟩ := rfl
    have hkey : key ∉ done.map Prod.fst := by
      rw [List.map_append] at hn
      intro hm
      exact (List.nodup_append.mp hn).2.2 key hm key (by simp) rfl
    have hsnoc : (done ++ [(key, x)]) ++ fields = done ++ (key, x) :: fields := by simp
    simp only [moreMembers, List.cons_append, List.append_assoc]
    rw [run_step h1, run_step h2, run_step h3, run_tokens _ x hx, deliver, upsert_new hkey,
      run_moreMembers us fields hfields _ stack (hsnoc ▸ hn), hsnoc]
end

theorem parse_stringify {v : Json} (h : wellFormed v = true) : parse (stringify v) = some v := by
  have hs : scan ((tokens v).flatMap spell) = some (tokens v) := by
    have := scans_tokens (fun t ht => by cases ht) scans_nil v h []
    rw [List.append_nil] at this
    exact this
  have hr : read (tokens v) = some v := by
    have := run_tokens [] v h []
    rw [List.append_nil] at this
    unfold read
    rw [this]
    rfl
  unfold parse stringify
  rw [String.toList_ofList, hs]
  exact hr

/-! ## What is read -/

namespace Context

def wellFormed : Context → Bool
  | arr xs => elementsWellFormed xs
  | obj fields _ => JsonText.wellFormed (.obj fields)

end Context

namespace Expect

def wellFormed : Expect → Bool
  | member fields => JsonText.wellFormed (.obj fields)
  | colon fields _ => JsonText.wellFormed (.obj fields)
  | nextElement xs => elementsWellFormed xs
  | nextMember fields => JsonText.wellFormed (.obj fields)
  | nothing v => JsonText.wellFormed v
  | _ => true

end Expect

structure Reader.WellFormed (r : Reader) : Prop where
  expect : r.expect.wellFormed = true
  stack : ∀ x ∈ r.stack, x.wellFormed = true

section
variable {v : Json} {xs : List Json} {fields : List (String × Json)} {key : String} {stack : List Context}
  {r r' : Reader}
  {s s' : Scanner} {t : Token} {ts : List Token} {text : List Char} {c : Char}

theorem elementsWellFormed_append (h : elementsWellFormed xs = true) (hv : wellFormed v = true) :
    elementsWellFormed (xs ++ [v]) = true := by
  induction xs with
  | nil => simp [elementsWellFormed, hv]
  | cons x xs ih =>
    obtain ⟨hx, hxs⟩ := Bool.and_eq_true_iff.mp h
    exact Bool.and_eq_true_iff.mpr ⟨hx, ih hxs⟩

theorem fieldsWellFormed_upsert (h : fieldsWellFormed fields = true) (hv : wellFormed v = true) :
    fieldsWellFormed (OrdMap.upsert key v fields) = true := by
  induction fields with
  | nil => simp [OrdMap.upsert, fieldsWellFormed, hv]
  | cons e fields ih =>
    obtain ⟨k, x⟩ := e
    obtain ⟨hx, hfields⟩ := Bool.and_eq_true_iff.mp h
    unfold OrdMap.upsert
    split
    · exact Bool.and_eq_true_iff.mpr ⟨hv, hfields⟩
    · exact Bool.and_eq_true_iff.mpr ⟨hx, ih hfields⟩

theorem wellFormed_upsert (h : wellFormed (.obj fields) = true) (hv : wellFormed v = true) :
    wellFormed (.obj (OrdMap.upsert key v fields)) = true := by
  obtain ⟨hn, hfields⟩ := Bool.and_eq_true_iff.mp h
  exact Bool.and_eq_true_iff.mpr
    ⟨decide_eq_true (OrdMap.nodup_upsert key v (of_decide_eq_true hn)), fieldsWellFormed_upsert hfields hv⟩

theorem wellFormed_deliver (hv : wellFormed v = true) (hs : ∀ x ∈ stack, x.wellFormed = true) :
    (deliver v stack).WellFormed := by
  cases stack with
  | nil => exact ⟨hv, hs⟩
  | cons x stack =>
    obtain ⟨hx, hstack⟩ := List.forall_mem_cons.mp hs
    cases x with
    | arr xs => exact ⟨elementsWellFormed_append hx hv, hstack⟩
    | obj fields key => exact ⟨wellFormed_upsert hx hv, hstack⟩

theorem wellFormed_readValue (ht : t.written = true) (hs : ∀ x ∈ stack, x.wellFormed = true)
    (h : readValue stack t = some r) : r.WellFormed := by
  cases t with
  | openArray | openObject =>
    obtain rfl := Option.some.inj h
    exact ⟨rfl, hs⟩
  | null | bool b | str s =>
    obtain rfl := Option.some.inj h
    exact wellFormed_deliver rfl hs
  | num text =>
    obtain rfl := Option.some.inj h
    exact wellFormed_deliver ht hs
  | closeArray | closeObject | comma | colon => cases h

theorem wellFormed_readStep (hr : r.WellFormed) (ht : t.written = true) (h : readStep r t = some r') :
    r'.WellFormed := by
  obtain ⟨expect, stack⟩ := r
  obtain ⟨he, hs⟩ := hr
  cases expect with
  | value => exact wellFormed_readValue ht hs h
  | firstElement =>
    by_cases hc : t = .closeArray
    · subst hc
      obtain rfl := Option.some.inj h
      exact wellFormed_deliver rfl hs
    · have hr : readStep ⟨.firstElement, stack⟩ t = readValue (.arr [] :: stack) t := by
        cases t with
        | closeArray => exact absurd rfl hc
        | _ => rfl
      rw [hr] at h
      exact wellFormed_readValue ht (List.forall_mem_cons.mpr ⟨rfl, hs⟩) h
  | firstMember =>
    cases t with
    | closeObject =>
      obtain rfl := Option.some.inj h
      exact wellFormed_deliver rfl hs
    | str key =>
      obtain rfl := Option.some.inj h
      exact ⟨rfl, hs⟩
    | _ => cases h
  | member fields =>
    cases t with
    | str key =>
      obtain rfl := Option.some.inj h
      exact ⟨he, hs⟩
    | _ => cases h
  | colon fields key =>
    cases t with
    | colon =>
      obtain rfl := Option.some.inj h
      exact ⟨rfl, List.forall_mem_cons.mpr ⟨he, hs⟩⟩
    | _ => cases h
  | nextElement xs =>
    cases t with
    | comma =>
      obtain rfl := Option.some.inj h
      exact ⟨rfl, List.forall_mem_cons.mpr ⟨he, hs⟩⟩
    | closeArray =>
      obtain rfl := Option.some.inj h
      exact wellFormed_deliver he hs
    | _ => cases h
  | nextMember fields =>
    cases t with
    | comma =>
      obtain rfl := Option.some.inj h
      exact ⟨he, hs⟩
    | closeObject =>
      obtain rfl := Option.some.inj h
      exact wellFormed_deliver he hs
    | _ => cases h
  | nothing v => cases t <;> cases h

theorem written_wordToken (h : wordToken text = some t) : t.written = true := by
  unfold wordToken at h
  split at h
  · obtain rfl := Option.some.inj h
    rfl
  · split at h
    · obtain rfl := Option.some.inj h
      rfl
    · split at h
      · obtain rfl := Option.some.inj h
        rfl
      · split at h
        · rename_i hn
          obtain rfl := Option.some.inj h
          simpa [Token.written] using hn
        · cases h

theorem written_append (hs : ∀ t ∈ ts, t.written = true) (ht : t.written = true) :
    ∀ u ∈ ts ++ [t], u.written = true := by
  intro u hu
  rcases List.mem_append.mp hu with hu | hu
  · exact hs u hu
  · rw [List.mem_singleton.mp hu]
    exact ht

theorem written_between (hs : ∀ t ∈ ts, t.written = true) (h : between ts c = some s) :
    ∀ t ∈ s.tokens, t.written = true := by
  have hp : ∀ e ∈ punctuation, e.2.written = true := by decide
  unfold between at h
  split at h
  · obtain rfl := Option.some.inj h
    exact hs
  · split at h
    · obtain rfl := Option.some.inj h
      exact hs
    · split at h
      · obtain rfl := Option.some.inj h
        exact hs
      · obtain ⟨t, ht, rfl⟩ := Option.map_eq_some_iff.mp h
        obtain ⟨l₁, l₂, he, -⟩ := List.lookup_eq_some_iff.mp ht
        exact written_append hs (hp (c, t) (by simp [he]))

theorem written_inString (hs : ∀ t ∈ ts, t.written = true) (h : inString text ts c = some s) :
    ∀ t ∈ s.tokens, t.written = true := by
  unfold inString at h
  split at h
  · obtain rfl := Option.some.inj h
    exact written_append hs rfl
  · split at h
    · obtain rfl := Option.some.inj h
      exact hs
    · split at h
      · cases h
      · obtain rfl := Option.some.inj h
        exact hs

theorem tokens_inEscape (h : inEscape text ts c = some s) : s.tokens = ts := by
  unfold inEscape at h
  split at h
  · obtain rfl := Option.some.inj h
    rfl
  · obtain ⟨d, -, rfl⟩ := Option.map_eq_some_iff.mp h
    rfl

theorem tokens_inHex {high : Option Nat} {digits : List Nat} (h : inHex text high digits ts c = some s) :
    s.tokens = ts := by
  obtain ⟨d, -, rfl⟩ := Option.map_eq_some_iff.mp h
  split <;> rfl

theorem written_scanStep (hs : ∀ t ∈ s.tokens, t.written = true) (h : scanStep s c = some s') :
    ∀ t ∈ s'.tokens, t.written = true := by
  obtain ⟨scan, ts⟩ := s
  cases scan with
  | between => exact written_between hs h
  | word text =>
    simp only [scanStep] at h
    split at h
    · obtain rfl := Option.some.inj h
      exact hs
    · obtain ⟨t, ht, h⟩ := Option.bind_eq_some_iff.mp h
      exact written_between (written_append hs (written_wordToken ht)) h
  | string text => exact written_inString hs h
  | escape text high =>
    cases high with
    | none => exact tokens_inEscape h ▸ hs
    | some high =>
      simp only [scanStep] at h
      split at h
      · obtain rfl := Option.some.inj h
        exact hs
      · exact tokens_inEscape h ▸ hs
  | hex text high digits => exact tokens_inHex h ▸ hs
  | pair text high =>
    simp only [scanStep] at h
    split at h
    · obtain rfl := Option.some.inj h
      exact hs
    · exact written_inString hs h

theorem written_scan (h : scan text = some ts) : ∀ t ∈ ts, t.written = true := by
  obtain ⟨s, hr, hs⟩ := Option.bind_eq_some_iff.mp h
  have hw : ∀ t ∈ s.tokens, t.written = true :=
    run_invariant (I := fun s => ∀ t ∈ s.tokens, t.written = true) (fun s c s' hs _ h => written_scanStep hs h)
      (by simp) (along_true _ _) hr
  obtain ⟨scan, us⟩ := s
  cases scan with
  | between =>
    obtain rfl := Option.some.inj hs
    exact hw
  | word text =>
    obtain ⟨t, ht, rfl⟩ := Option.map_eq_some_iff.mp hs
    exact written_append hw (written_wordToken ht)
  | _ => cases hs

end

theorem wellFormed_of_parse {text : String} {v : Json} (h : parse text = some v) : wellFormed v = true := by
  obtain ⟨ts, hs, h⟩ := Option.bind_eq_some_iff.mp h
  obtain ⟨r, hr, h⟩ := Option.bind_eq_some_iff.mp h
  have hw : r.WellFormed := by
    refine run_invariant (fun r t r' hr ht h => wellFormed_readStep hr ht h) ?_
      (along_of_forall (written_scan hs) _) hr
    exact ⟨rfl, by simp⟩
  obtain ⟨expect, stack⟩ := r
  cases expect with
  | nothing v' =>
    obtain rfl := Option.some.inj h
    exact hw.expect
  | _ => cases h

end JsonText

end StayApi
