import Mathlib.Data.List.Basic

/-!
# Percent-encoding

A percent-encoder leaves the characters of a set as they are and writes every
octet of the UTF-8 form of the others as `%` and two hexadecimal digits. The
octets are read back from what it writes, so two strings have one encoding only
if they are equal.
-/

namespace Percent

def hexDigit (n : Nat) : Char := Char.ofNat (if n < 10 then n + 48 else n + 55)

def digitValue (c : Char) : Nat := if c.toNat < 58 then c.toNat - 48 else c.toNat - 55

def encodeOctet (b : UInt8) : List Char := ['%', hexDigit (b.toNat / 16), hexDigit (b.toNat % 16)]

def encodeChar (keep : Char → Bool) (c : Char) : List Char :=
  if keep c then [c] else (String.utf8EncodeChar c).flatMap encodeOctet

def encode (keep : Char → Bool) (s : String) : List Char := s.toList.flatMap (encodeChar keep)

def decode : List Char → List UInt8
  | '%' :: hi :: lo :: cs => UInt8.ofNat (16 * digitValue hi + digitValue lo) :: decode cs
  | c :: cs => c.toUInt8 :: decode cs
  | [] => []

/-- The encoder leaves ASCII characters only as they are, and not `%`. -/
structure Kept (keep : Char → Bool) : Prop where
  ascii : ∀ c, keep c = true → c.toNat < 128
  percent : keep '%' = false

section
variable {keep : Char → Bool}

theorem digitValue_hexDigit {n : Nat} (h : n < 16) : digitValue (hexDigit n) = n := by
  have : ∀ n : Fin 16, digitValue (hexDigit n) = n := by decide
  exact this ⟨n, h⟩

theorem utf8EncodeChar_ascii {c : Char} (h : c.toNat < 128) : String.utf8EncodeChar c = [c.toUInt8] := by
  have hc : c.val ≤ 127 := by
    rw [UInt32.le_iff_toNat_le]
    exact Nat.le_of_lt_succ h
  rw [String.utf8EncodeChar_eq_singleton (Char.utf8Size_eq_one_iff.mpr hc)]
  rfl

theorem decode_kept {c : Char} (h : c ≠ '%') (cs : List Char) : decode (c :: cs) = c.toUInt8 :: decode cs := by
  rw [decode]
  intro _ _ _ hc
  exact absurd hc h

theorem decode_encodeOctet (b : UInt8) (cs : List Char) : decode (encodeOctet b ++ cs) = b :: decode cs := by
  have hb : b.toNat < 256 := b.toNat_lt
  have hv : 16 * (b.toNat / 16) + b.toNat % 16 = b.toNat := by omega
  simp only [encodeOctet, List.cons_append, List.nil_append]
  rw [decode, digitValue_hexDigit (by omega), digitValue_hexDigit (by omega), hv]
  simp

theorem decode_encodeOctets (bs : List UInt8) (cs : List Char) :
    decode (bs.flatMap encodeOctet ++ cs) = bs ++ decode cs := by
  induction bs with
  | nil => simp
  | cons b bs ih => rw [List.flatMap_cons, List.append_assoc, decode_encodeOctet, ih, List.cons_append]

/-- One character of the string is read back as its UTF-8 form. -/
theorem decode_encodeChar (hk : Kept keep) (c : Char) (cs : List Char) :
    decode (encodeChar keep c ++ cs) = String.utf8EncodeChar c ++ decode cs := by
  unfold encodeChar
  by_cases h : keep c = true
  · have hc : c ≠ '%' := by
      intro e
      rw [e, hk.percent] at h
      cases h
    rw [if_pos h, List.singleton_append, decode_kept hc, utf8EncodeChar_ascii (hk.ascii c h), List.singleton_append]
  · rw [if_neg h, decode_encodeOctets]

theorem decode_encodeChars (hk : Kept keep) (s : List Char) :
    decode (s.flatMap (encodeChar keep)) = s.flatMap String.utf8EncodeChar := by
  induction s with
  | nil => simp [decode]
  | cons c s ih => rw [List.flatMap_cons, List.flatMap_cons, decode_encodeChar hk, ih]

theorem utf8_injective {s t : String} (h : s.toList.flatMap String.utf8EncodeChar = t.toList.flatMap String.utf8EncodeChar) :
    s = t := by
  have hb : s.toList.utf8Encode = t.toList.utf8Encode := congrArg List.toByteArray h
  rw [← String.toByteArray_ofList, ← String.toByteArray_ofList, String.ofList_toList, String.ofList_toList] at hb
  exact String.toByteArray_inj.mp hb

theorem encode_injective (hk : Kept keep) {s t : String} (h : encode keep s = encode keep t) : s = t := by
  apply utf8_injective
  rw [← decode_encodeChars hk, ← decode_encodeChars hk]
  exact congrArg decode h

theorem hexDigit_isAlphanum {n : Nat} (h : n < 16) : (hexDigit n).isAlphanum = true := by
  have : ∀ n : Fin 16, (hexDigit n).isAlphanum = true := by decide
  exact this ⟨n, h⟩

/-- What an encoder writes: a kept character, `%`, or a digit. -/
theorem mem_encode {s : String} {c : Char} (h : c ∈ encode keep s) : keep c = true ∨ c = '%' ∨ c.isAlphanum = true := by
  obtain ⟨d, -, hd⟩ := List.mem_flatMap.mp h
  unfold encodeChar at hd
  by_cases hk : keep d = true
  · rw [if_pos hk, List.mem_singleton] at hd
    exact .inl (hd ▸ hk)
  · rw [if_neg hk] at hd
    obtain ⟨b, -, hb⟩ := List.mem_flatMap.mp hd
    have hlt : b.toNat < 256 := b.toNat_lt
    simp only [encodeOctet, List.mem_cons, List.not_mem_nil, or_false] at hb
    obtain rfl | rfl | rfl := hb
    · exact .inr (.inl rfl)
    · exact .inr (.inr (hexDigit_isAlphanum (by omega)))
    · exact .inr (.inr (hexDigit_isAlphanum (by omega)))

end

end Percent
