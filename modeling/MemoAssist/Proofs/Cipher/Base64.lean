import MemoAssist.Cipher.Base64
import Mathlib.Data.List.Basic

namespace MemoAssist.Base64

open Text (Bytes)

/-- The values of the digits in which bytes are written. -/
def values : Bytes → List Nat
  | [] => []
  | [a] =>
    let n := 16 * a.toNat
    [n / 64, n % 64]
  | [a, b] =>
    let n := 4 * (256 * a.toNat + b.toNat)
    [n / 4096, n / 64 % 64, n % 64]
  | a :: b :: c :: rest =>
    let n := 65536 * a.toNat + 256 * b.toNat + c.toNat
    n / 262144 :: n / 4096 % 64 :: n / 64 % 64 :: n % 64 :: values rest

/-- How many pads stand behind the digits of so many bytes. -/
def padsFor (length : Nat) : Nat := (3 - length % 3) % 3

private theorem encode_eq (bytes : Bytes) :
    encode bytes = (values bytes).map digit ++ List.replicate (padsFor bytes.length) pad := by
  fun_induction encode bytes with
  | case1 => rfl
  | case2 => rfl
  | case3 => rfl
  | case4 a b c rest n ih =>
    have same : padsFor (a :: b :: c :: rest).length = padsFor rest.length := by
      simp only [padsFor, List.length_cons]
      omega
    rw [same]
    simp only [values, List.map_cons, List.cons_append, ih, n]

/-! ### Digits -/

private theorem value?_digit {n : Nat} (small : n < 64) : value? (digit n) = some n := by
  have all : ∀ n ∈ List.range 64, value? (digit n) = some n := by decide
  exact all n (List.mem_range.mpr small)

private theorem value?_pad : value? pad = none := by decide

private theorem values_small (bytes : Bytes) : ∀ n ∈ values bytes, n < 64 := by
  fun_induction values bytes with
  | case1 => simp
  | case2 a n =>
    have byte := a.toNat_lt
    simp only [List.mem_cons, List.not_mem_nil, or_false]
    rintro m (rfl | rfl) <;> omega
  | case3 a b n =>
    have first := a.toNat_lt
    have second := b.toNat_lt
    simp only [List.mem_cons, List.not_mem_nil, or_false]
    rintro m (rfl | rfl | rfl) <;> omega
  | case4 a b c rest n ih =>
    have first := a.toNat_lt
    have second := b.toNat_lt
    have third := c.toNat_lt
    simp only [List.mem_cons]
    rintro m (rfl | rfl | rfl | rfl | member)
    · omega
    · omega
    · omega
    · omega
    · exact ih m member

private theorem filterMap_digits {digits : List Nat} (small : ∀ n ∈ digits, n < 64) :
    (digits.map digit).filterMap value? = digits := by
  rw [List.filterMap_map]
  calc digits.filterMap (value? ∘ digit)
      = digits.filterMap some :=
        List.filterMap_congr fun n member => value?_digit (small n member)
    _ = digits := List.filterMap_some

/-- The pads end the digits. -/
theorem takeWhile_digits {digits : List Nat} (small : ∀ n ∈ digits, n < 64) (count : Nat) :
    (digits.map digit ++ List.replicate count pad).takeWhile (fun c => (value? c).isSome) =
      digits.map digit := by
  have stops : (List.replicate count pad).takeWhile (fun c => (value? c).isSome) = [] := by
    cases count with
    | zero => rfl
    | succ count => rw [List.replicate_succ, List.takeWhile_cons_of_neg (by simp [value?_pad])]
  rw [List.takeWhile_append_of_pos, stops, List.append_nil]
  intro c member
  obtain ⟨n, here, rfl⟩ := List.mem_map.mp member
  simp [value?_digit (small n here)]

/-! ### Bytes -/

theorem toUInt8_eq {n : Nat} {b : UInt8} (low : n % 256 = b.toNat) : n.toUInt8 = b := by
  apply UInt8.toNat_inj.mp
  simpa using low

private theorem bytesOfValues_values (bytes : Bytes) : bytesOfValues (values bytes) = bytes := by
  fun_induction values bytes with
  | case1 => rfl
  | case2 a n =>
    have byte := a.toNat_lt
    simp only [bytesOfValues]
    rw [toUInt8_eq (b := a) (by omega)]
  | case3 a b n =>
    have first := a.toNat_lt
    have second := b.toNat_lt
    simp only [bytesOfValues]
    rw [toUInt8_eq (b := a) (by omega), toUInt8_eq (b := b) (by omega)]
  | case4 a b c rest n ih =>
    have first := a.toNat_lt
    have second := b.toNat_lt
    have third := c.toNat_lt
    simp only [bytesOfValues, ih]
    rw [toUInt8_eq (b := a) (by omega), toUInt8_eq (b := b) (by omega),
      toUInt8_eq (b := c) (by omega)]

private theorem completes_values (bytes : Bytes) :
    completes (values bytes).length (padsFor bytes.length) = true := by
  fun_induction values bytes with
  | case1 => rfl
  | case2 => rfl
  | case3 => rfl
  | case4 a b c rest n ih =>
    have same : padsFor (a :: b :: c :: rest).length = padsFor rest.length := by
      simp only [padsFor, List.length_cons]
      omega
    have group : (values rest).length + 1 + 1 + 1 + 1 = (values rest).length + 4 := rfl
    rw [same]
    simp only [List.length_cons, group]
    unfold completes at ih ⊢
    rw [Nat.add_mod_right]
    split at ih <;> simp_all

/-- What was written reads back. -/
theorem decode?_encode (bytes : Bytes) : decode? (encode bytes) = some bytes := by
  have small := values_small bytes
  have complete := completes_values bytes
  rw [decode?, encode_eq, takeWhile_digits small]
  simp [filterMap_digits small, bytesOfValues_values, complete]

end MemoAssist.Base64
