import MemoAssist.Cipher.Keys

namespace MemoAssist

open Text (Bytes)

namespace Sha256

private theorem length_digest (message : Bytes) : (digest message).length = 32 := by
  simp [digest, State.bytes, bytesOfWord]

end Sha256

namespace Aes

@[simp] theorem length_xorBytes (xs ys : Bytes) :
    (xorBytes xs ys).length = min xs.length ys.length :=
  List.length_zipWith

/-- A key schedule so far: every word has four bytes. -/
def Words (schedule : Array Bytes) : Prop := ∀ word ∈ schedule, word.length = 4

variable {schedule : Array Bytes}

theorem Words.getD (words : Words schedule) {place : Nat} (inside : place < schedule.size) :
    (schedule.getD place []).length = 4 := by
  rw [Array.getD_eq_getD_getElem?, Array.getElem?_eq_getElem inside]
  exact words _ (Array.getElem_mem inside)

private theorem length_mixed {place : Nat} {word : Bytes} (four : word.length = 4) :
    (mixed place word).length = 4 := by
  unfold mixed
  split
  · cases word with
    | nil => cases four
    | cons a rest =>
      have three : rest.length = 3 := Nat.succ.inj four
      simp [three]
  · split <;> simpa using four

/-- A key schedule with one more word behind the others. -/
def lengthened (schedule : Array Bytes) : Array Bytes :=
  schedule.push (xorBytes (schedule.getD (schedule.size - 8) [])
    (mixed schedule.size (schedule.getD (schedule.size - 1) [])))

theorem Words.lengthened (words : Words schedule) (begun : 8 ≤ schedule.size) :
    Words (lengthened schedule) := by
  intro word member
  rcases Array.mem_push.mp member with old | rfl
  · exact words word old
  · rw [length_xorBytes, words.getD (by omega), length_mixed (words.getD (by omega)), Nat.min_self]

theorem Words.extend (steps : List Nat) (words : Words schedule) (begun : 8 ≤ schedule.size) :
    Words (steps.foldl (fun ws _ => Aes.lengthened ws) schedule) ∧
      (steps.foldl (fun ws _ => Aes.lengthened ws) schedule).size =
        schedule.size + steps.length := by
  induction steps generalizing schedule with
  | nil => exact ⟨words, rfl⟩
  | cons step steps ih =>
    have longer : (Aes.lengthened schedule).size = schedule.size + 1 := Array.size_push _
    obtain ⟨kept, size⟩ := ih (words.lengthened begun) (by omega)
    refine ⟨kept, size.trans ?_⟩
    rw [longer, List.length_cons]
    omega

/-- The words of the key itself. -/
def ownWords (key : Bytes) : Array Bytes :=
  ((List.range 8).map fun i => (key.drop (4 * i)).take 4).toArray

private theorem keySchedule_eq (key : Bytes) :
    keySchedule key = (List.range 52).foldl (fun ws _ => lengthened ws) (ownWords key) := by
  unfold keySchedule lengthened ownWords
  rfl

private theorem keySchedule_words {key : Bytes} (long : key.length = 32) :
    Words (keySchedule key) ∧ (keySchedule key).size = 60 := by
  have own : Words (ownWords key) := by
    intro word member
    obtain ⟨i, inside, rfl⟩ := List.mem_map.mp (List.mem_toArray.mp member)
    have small := List.mem_range.mp inside
    rw [List.length_take, List.length_drop]
    omega
  have eight : (ownWords key).size = 8 := by simp [ownWords]
  obtain ⟨words, size⟩ := own.extend (List.range 52) (Nat.le_of_eq eight.symm)
  rw [← keySchedule_eq] at words size
  rw [eight, List.length_range] at size
  exact ⟨words, size⟩

private theorem length_roundKey (words : Words schedule) (size : schedule.size = 60) {round : Nat}
    (inside : round ≤ 14) : (roundKey schedule round).length = 16 := by
  have four (i : Nat) (small : i < 4) : (schedule.getD (4 * round + i) []).length = 4 :=
    words.getD (by omega)
  rw [roundKey, List.length_flatMap, List.map_congr_left fun i member =>
    four i (List.mem_range.mp member)]
  rfl

private theorem length_shiftRows (block : Bytes) : (shiftRows block).length = 16 := by
  simp [shiftRows]

private theorem length_encrypt (words : Words schedule) (size : schedule.size = 60) (block : Bytes) :
    (encrypt schedule block).length = 16 := by
  simp [encrypt, length_shiftRows, length_roundKey words size]

end Aes

/-- The cipher of a master secret turns every block into a block. -/
theorem KeyCipher.length_block {master : String} {k : KeyCipher} (made : ofMaster master = .ok k)
    (block : Bytes) : (k.block block).length = Gcm.blockSize := by
  unfold ofMaster at made
  dsimp only at made
  split at made
  · cases made
  · obtain rfl := Except.ok.inj made
    obtain ⟨words, size⟩ :=
      Aes.keySchedule_words (Sha256.length_digest (Text.encode master))
    exact Aes.length_encrypt words size block

end MemoAssist
