import MemoAssist.Cipher.Gcm
import MemoAssist.Proofs.Text.Encoding

namespace MemoAssist.Gcm

open Text (Bytes)

variable {cipher : Bytes → Bytes}

private theorem zipWith_xor_zipWith {text mask : Bytes} (enough : text.length ≤ mask.length) :
    List.zipWith (· ^^^ ·) (List.zipWith (· ^^^ ·) text mask) mask = text := by
  induction text generalizing mask with
  | nil => simp
  | cons a rest ih =>
    cases mask with
    | nil => simp at enough
    | cons b mask =>
      have shorter : rest.length ≤ mask.length := by simpa using enough
      rw [List.zipWith_cons_cons, List.zipWith_cons_cons, UInt8.xor_assoc, UInt8.xor_self,
        UInt8.xor_zero, ih shorter]

private theorem length_hash (key : Nat) (text : Bytes) : (hash key text).length = 16 :=
  Octets.length_ofNat

section

variable (sized : ∀ block, (cipher block).length = blockSize)
include sized

private theorem length_keyStream (nonce : Bytes) (length : Nat) :
    (keyStream cipher nonce length).length = length := by
  have enough : length ≤ blockCount length * 16 := by
    unfold blockCount blockSize
    omega
  have all : ((List.range (blockCount length)).flatMap fun i =>
      cipher (counterBlock nonce (i + 2))).length = blockCount length * 16 := by
    simp [List.length_flatMap, sized, List.map_const', blockSize]
  rw [keyStream, List.length_take, all, Nat.min_eq_left enough]

private theorem length_combine (nonce text : Bytes) : (combine cipher nonce text).length = text.length := by
  simp [combine, length_keyStream sized]

private theorem combine_combine (nonce text : Bytes) :
    combine cipher nonce (combine cipher nonce text) = text := by
  have same : (combine cipher nonce text).length = text.length := length_combine sized nonce text
  rw [combine, same]
  exact zipWith_xor_zipWith (Nat.le_of_eq (length_keyStream sized nonce text.length).symm)

theorem length_tag (nonce hidden : Bytes) : (tag cipher nonce hidden).length = tagSize := by
  simp [tag, length_hash, sized, blockSize, tagSize]

theorem length_sealed (nonce text : Bytes) :
    (sealed cipher nonce text).length = text.length + tagSize := by
  simp [sealed, length_combine sized, length_tag sized]

theorem opened?_sealed (nonce text : Bytes) :
    opened? cipher nonce (sealed cipher nonce text) = some text := by
  have hidden : (sealed cipher nonce text).length - tagSize = (combine cipher nonce text).length := by
    rw [length_sealed sized, length_combine sized]
    omega
  have long : ¬ (sealed cipher nonce text).length < tagSize := by
    rw [length_sealed sized]
    omega
  rw [opened?, if_neg long]
  dsimp only
  rw [hidden]
  simp [sealed, combine_combine sized]

/-- Nothing opens but what was sealed. -/
theorem sealed_of_opened? {nonce bytes text : Bytes} (opens : opened? cipher nonce bytes = some text) :
    bytes = sealed cipher nonce text := by
  unfold opened? at opens
  split at opens
  · cases opens
  · dsimp only at opens
    split at opens
    · next authentic =>
      obtain rfl := Option.some.inj opens
      rw [sealed, combine_combine sized, ← authentic, List.take_append_drop]
    · cases opens

theorem sealed_inj {nonce text other : Bytes}
    (same : sealed cipher nonce text = sealed cipher nonce other) : text = other := by
  have opens := opened?_sealed sized nonce text
  rw [same, opened?_sealed sized] at opens
  exact (Option.some.inj opens).symm

end

end MemoAssist.Gcm
