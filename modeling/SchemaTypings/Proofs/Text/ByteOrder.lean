import Mathlib.Data.String.Basic

/-!
# The order of texts is the order of their bytes

Texts are compared character by character. Their UTF-8 encodings are compared byte by byte, and both orders agree: the
first byte of a character grows with the number of bytes, and after it stand the digits of the character to the
base 64, the highest first.

* `bytes`: the bytes of a text.
* `bytes_lt_bytes_iff`: the two orders are the same.
-/

namespace SchemaTypings.Text

open String (utf8EncodeChar)

/-- The bytes of a text. -/
def bytes (text : String) : List UInt8 := text.toUTF8.data.toList

theorem bytes_eq (text : String) : bytes text = text.toList.flatMap utf8EncodeChar := by
  rw [bytes, String.toUTF8_eq_toByteArray, ← String.utf8Encode_toList, List.utf8Encode,
    List.toList_data_toByteArray]

/-! ## One character -/

/-- The last bytes of a character: its last digits to the base 64. -/
def digitBytes : Nat → Nat → List UInt8
  | 0, _ => []
  | count + 1, value => UInt8.ofNat (128 + value / 64 ^ count % 64) :: digitBytes count value

/-- Smaller bytes in front decide, equal ones leave it to the rest. -/
theorem ofNat_cons_lt {a b : Nat} {rest other : List UInt8} (ha : a < 256) (hb : b < 256)
    (h : a < b ∨ a = b ∧ rest < other) : UInt8.ofNat a :: rest < UInt8.ofNat b :: other := by
  rw [List.cons_lt_cons_iff, UInt8.ofNat_lt_iff_lt ha hb]
  exact h.imp_right fun ⟨heq, hlt⟩ => ⟨congrArg _ heq, hlt⟩

/-- Numbers with the same digits in front are ordered as their last digits are. -/
theorem digitBytes_lt {count m n : Nat} {rest other : List UInt8} (hlt : m < n)
    (hfront : m / 64 ^ count = n / 64 ^ count) :
    digitBytes count m ++ rest < digitBytes count n ++ other := by
  induction count with
  | zero =>
    rw [Nat.pow_zero, Nat.div_one, Nat.div_one] at hfront
    omega
  | succ count ih =>
    rw [Nat.pow_succ, ← Nat.div_div_eq_div_mul, ← Nat.div_div_eq_div_mul] at hfront
    have hle : m / 64 ^ count ≤ n / 64 ^ count := Nat.div_le_div_right hlt.le
    refine ofNat_cons_lt (by omega) (by omega) ?_
    by_cases heq : m / 64 ^ count = n / 64 ^ count
    · exact .inr ⟨by rw [heq], ih heq⟩
    · exact .inl (by omega)

/-- How many digits stand behind the first byte of a character, and what marks the first byte. -/
def byteForm (value : Nat) : Nat × Nat :=
  if value ≤ 127 then (0, 0)
  else if value ≤ 2047 then (1, 192)
  else if value ≤ 65535 then (2, 224)
  else (3, 240)

theorem byteForm_cases (value : Nat) :
    value ≤ 127 ∧ byteForm value = (0, 0) ∨
      127 < value ∧ value ≤ 2047 ∧ byteForm value = (1, 192) ∨
      2047 < value ∧ value ≤ 65535 ∧ byteForm value = (2, 224) ∨
      65535 < value ∧ byteForm value = (3, 240) := by
  unfold byteForm
  split
  next h => exact .inl ⟨h, rfl⟩
  split
  next h => exact .inr (.inl ⟨by omega, h, rfl⟩)
  split
  next h => exact .inr (.inr (.inl ⟨by omega, h, rfl⟩))
  next h => exact .inr (.inr (.inr ⟨by omega, rfl⟩))

theorem toNat_val_lt (c : Char) : c.val.toNat < 1114112 := by
  rcases c.valid with h | h
  · exact Nat.lt_trans h (by decide)
  · exact h.2

/-- A character is its first byte and digits to the base 64. -/
theorem utf8EncodeChar_eq (c : Char) :
    utf8EncodeChar c = UInt8.ofNat ((byteForm c.val.toNat).2 +
      c.val.toNat / 64 ^ (byteForm c.val.toNat).1) :: digitBytes (byteForm c.val.toNat).1 c.val.toNat := by
  have hbound := toNat_val_lt c
  rw [utf8EncodeChar.eq_1]
  generalize c.val.toNat = value at *
  unfold byteForm
  split
  · simp [digitBytes]
  split
  · have hfirst : value / 64 % 32 + 192 = 192 + value / 64 := by omega
    simp [digitBytes, hfirst, Nat.add_comm]
  split
  · have hfirst : value / 4096 % 16 + 224 = 224 + value / 4096 := by omega
    simp [digitBytes, hfirst, Nat.add_comm]
  · have hfirst : value / 262144 % 8 + 240 = 240 + value / 262144 := by omega
    simp [digitBytes, hfirst, Nat.add_comm]

/-- Greater characters have no smaller first byte, and as many digits behind an equal one. -/
theorem byteForm_lt {m n : Nat} (hlt : m < n) (hbound : n < 1114112) :
    (byteForm m).2 + m / 64 ^ (byteForm m).1 < (byteForm n).2 + n / 64 ^ (byteForm n).1 ∨
      byteForm m = byteForm n ∧ m / 64 ^ (byteForm m).1 = n / 64 ^ (byteForm m).1 := by
  rcases byteForm_cases m with ⟨hm, hform⟩ | ⟨hm, hm', hform⟩ | ⟨hm, hm', hform⟩ | ⟨hm, hform⟩ <;>
    rcases byteForm_cases n with ⟨hn, hform'⟩ | ⟨hn, hn', hform'⟩ | ⟨hn, hn', hform'⟩ | ⟨hn, hform'⟩ <;>
    rw [hform, hform'] <;> simp only [Prod.mk.injEq, true_and] <;> omega

/-- The encodings of different characters are ordered as the characters are, whatever stands behind them. -/
theorem utf8EncodeChar_append_lt {c d : Char} (h : c < d) (rest other : List UInt8) :
    utf8EncodeChar c ++ rest < utf8EncodeChar d ++ other := by
  have hlt : c.val.toNat < d.val.toNat := h
  have hbound := toNat_val_lt d
  rw [utf8EncodeChar_eq, utf8EncodeChar_eq, List.cons_append, List.cons_append]
  generalize c.val.toNat = m at *
  generalize d.val.toNat = n at *
  have hfirst : ∀ value < 1114112, (byteForm value).2 + value / 64 ^ (byteForm value).1 < 256 := by
    intro value hvalue
    rcases byteForm_cases value with ⟨hle, hform⟩ | ⟨-, hle, hform⟩ | ⟨-, hle, hform⟩ | ⟨-, hform⟩ <;>
      rw [hform] <;> simp only <;> omega
  refine ofNat_cons_lt (hfirst m (by omega)) (hfirst n hbound) ?_
  rcases byteForm_lt hlt hbound with hless | ⟨hform, hdigits⟩
  · exact .inl hless
  · rw [← hform, hdigits]
    exact .inr ⟨rfl, digitBytes_lt hlt hdigits⟩

/-! ## Texts -/

theorem flatMap_utf8EncodeChar_lt_iff (s t : List Char) :
    s.flatMap utf8EncodeChar < t.flatMap utf8EncodeChar ↔ s < t := by
  have hlt : ∀ s t : List Char, s < t → s.flatMap utf8EncodeChar < t.flatMap utf8EncodeChar := by
    intro s t h
    induction s generalizing t with
    | nil =>
      cases t with
      | nil => exact absurd h (List.lt_irrefl _)
      | cons d t =>
        rw [List.flatMap_cons, utf8EncodeChar_eq]
        exact List.nil_lt_cons _ _
    | cons c s ih =>
      cases t with
      | nil => exact absurd h (List.not_lt_nil _)
      | cons d t =>
        rw [List.flatMap_cons, List.flatMap_cons]
        rcases List.cons_lt_cons_iff.mp h with hless | ⟨rfl, hrest⟩
        · exact utf8EncodeChar_append_lt hless _ _
        · exact List.append_left_lt (ih t hrest)
  refine ⟨fun h => ?_, hlt s t⟩
  rcases lt_trichotomy s t with hless | rfl | hgreater
  · exact hless
  · exact absurd h (List.lt_irrefl _)
  · exact absurd h (List.lt_asymm (hlt t s hgreater))

/-- **Texts are ordered as their bytes are.** -/
theorem bytes_lt_bytes_iff {s t : String} : bytes s < bytes t ↔ s < t := by
  rw [bytes_eq, bytes_eq, flatMap_utf8EncodeChar_lt_iff, String.lt_iff_toList_lt]

end SchemaTypings.Text
