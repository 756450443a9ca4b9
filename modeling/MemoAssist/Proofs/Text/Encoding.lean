import MemoAssist.Octets
import Mathlib.Algebra.Group.Nat.Defs

namespace MemoAssist

namespace Text

theorem encode_inj {s t : String} (same : encode s = encode t) : s = t := by
  simp only [encode, String.toUTF8_eq_toByteArray] at same
  apply String.toByteArray_inj.mp
  apply ByteArray.ext
  exact Array.toList_inj.mp same

theorem decode?_encode (s : String) : decode? (encode s) = some s := by
  simp only [decode?, encode, String.toUTF8_eq_toByteArray, Array.toArray_toList, String.fromUTF8?]
  exact dif_pos s.isValidUTF8

theorem encode_of_decode? {bytes : Bytes} {s : String} (read : decode? bytes = some s) :
    encode s = bytes := by
  unfold decode? String.fromUTF8? at read
  split at read
  · next valid =>
    obtain rfl := Option.some.inj read
    simp [encode, String.fromUTF8]
  · cases read

theorem encode_eq_nil {s : String} (empty : encode s = []) : s = "" :=
  encode_inj (empty.trans (by rfl))

theorem decodeReplacing_eq_nil {bytes : Bytes} : decodeReplacing bytes = [] ↔ bytes = [] := by
  cases bytes with
  | nil => simp [decodeReplacing]
  | cons b rest =>
    rw [decodeReplacing]
    split <;> simp

/-- Below the first bit each byte is a character. -/
theorem decodeReplacing_ascii {bytes : Bytes} (ascii : ∀ b ∈ bytes, b.toNat < 0x80) :
    decodeReplacing bytes = bytes.map fun b => Char.ofNat b.toNat := by
  induction bytes with
  | nil => simp [decodeReplacing]
  | cons b rest ih =>
    have alone : Lead.of? b.toNat = some ⟨0, 0, 0, b.toNat⟩ := if_pos (ascii b List.mem_cons_self)
    rw [decodeReplacing, alone, List.map_cons, ← ih fun c member => ascii c (List.mem_cons_of_mem b member)]
    rfl

theorem hasHalf_append (first second : String) :
    hasHalf (first ++ second) = (hasHalf first || hasHalf second) := by
  simp only [hasHalf, String.toList_append, List.any_append]

theorem hasHalf_toString (n : Nat) : hasHalf (toString n) = false := by
  refine List.any_eq_false.mpr fun c member => ?_
  have digit : c.isDigit = true :=
    Nat.isDigit_of_mem_toDigits (b := 10) (by decide) (by decide) (by simpa using member)
  simp only [Char.isDigit, Bool.and_eq_true, decide_eq_true_eq, ge_iff_le, UInt32.le_iff_toNat_le] at digit
  have low : c.toNat ≤ 57 := digit.2
  simp only [isHalf, Bool.and_eq_true, decide_eq_true_eq]
  omega

end Text

namespace Octets

@[simp] theorem length_ofNat {width n : Nat} : (ofNat width n).length = width := by
  induction width generalizing n with
  | zero => rfl
  | succ width ih => simp [ofNat, ih]

/-- Numbers that fit are told apart by their bytes. -/
theorem ofNat_inj {width n m : Nat} (fits : n < 256 ^ width) (fits' : m < 256 ^ width)
    (same : ofNat width n = ofNat width m) : n = m := by
  induction width generalizing n m with
  | zero => simp at fits fits'; omega
  | succ width ih =>
    simp only [ofNat] at same
    obtain ⟨front, last⟩ := List.append_inj' same rfl
    have high : n / 256 = m / 256 :=
      ih (Nat.div_lt_of_lt_mul (by rwa [Nat.pow_succ, Nat.mul_comm] at fits))
        (Nat.div_lt_of_lt_mul (by rwa [Nat.pow_succ, Nat.mul_comm] at fits')) front
    have low : n % 256 = m % 256 := by
      have bytes := congrArg UInt8.toNat (List.head_eq_of_cons_eq last)
      simpa using bytes
    omega

end Octets

end MemoAssist
