import MemoAssist.Proofs.Cipher.Aes
import MemoAssist.Proofs.Cipher.Base64
import MemoAssist.Proofs.Cipher.Gcm
import MemoAssist.Proofs.Text.Encoding

/-! Sealed texts. A text is read back from its blob under every nonce, and a blob that is read is the
one that sealing makes of the text under the nonce in front of it; any other blob is refused. -/
namespace MemoAssist.KeyCipher

open Text (Bytes)

/-- The blob is base64 for a nonce and what sealing makes of the payload under it. -/
def Carries (k : KeyCipher) (blob : String) (nonce payload : Bytes) : Prop :=
  nonce.length = Gcm.nonceSize ∧
    Base64.decode? blob.toList = some (nonce ++ Gcm.sealed k.block nonce payload)

variable {k : KeyCipher} {blob text note : String} {nonce payload bytes : Bytes}

private theorem Carries.ne_empty (carries : k.Carries blob nonce payload) : blob ≠ "" := by
  rintro rfl
  obtain ⟨size, decoded⟩ := carries
  have nothing : [] = nonce ++ Gcm.sealed k.block nonce payload := by
    rw [String.toList_empty] at decoded
    exact Option.some.inj decoded
  obtain ⟨none, _⟩ := List.append_eq_nil_iff.mp nothing.symm
  rw [none] at size
  cases size

/-- Under another cipher as well, a sealed text starts with its nonce. -/
theorem decode?_sealed (k : KeyCipher) (nonce : Bytes) (text : String) :
    Base64.decode? (k.sealed nonce text).toList =
      some (nonce ++ Gcm.sealed k.block nonce (Text.encode text)) := by
  rw [sealed, String.toList_ofList, Base64.decode?_encode]

private theorem carries_sealed (size : nonce.length = Gcm.nonceSize) (text : String) :
    k.Carries (k.sealed nonce text) nonce (Text.encode text) :=
  ⟨size, decode?_sealed k nonce text⟩

private theorem encrypt_empty (k : KeyCipher) (e : Entropy) : k.encrypt "" e = ("", e) := if_pos rfl

private theorem carries_encrypt (e : Entropy) (written : text ≠ "") :
    k.Carries (k.encrypt text e).1 (e.draw Gcm.nonceSize).1 (Text.encode text) := by
  rw [encrypt, if_neg written]
  exact carries_sealed (by simp [Entropy.draw]) text

private theorem decode?_short (short : Base64.decode? blob.toList = some bytes)
    (size : bytes.length < Gcm.nonceSize) (written : blob ≠ "") :
    k.decrypt blob = .error (.of .badCiphertext) := by
  rw [decrypt, if_neg written, short]
  exact if_pos size

/-- Bytes behind a nonce that do not open. -/
theorem decrypt_of_not_opened (decoded : Base64.decode? blob.toList = some (nonce ++ bytes))
    (size : nonce.length = Gcm.nonceSize) (closed : Gcm.opened? k.block nonce bytes = none) :
    k.decrypt blob = .error notAuthentic := by
  have written : blob ≠ "" := by
    rintro rfl
    rw [String.toList_empty] at decoded
    obtain ⟨none, _⟩ := List.append_eq_nil_iff.mp (Option.some.inj decoded).symm
    rw [none] at size
    cases size
  have long : ¬ (nonce ++ bytes).length < Gcm.nonceSize := by
    rw [List.length_append]
    omega
  rw [decrypt, if_neg written, decoded]
  dsimp only
  rw [if_neg long, List.take_left' size, List.drop_left' size, closed]

section

variable (sized : ∀ block, (k.block block).length = Gcm.blockSize)
include sized

/-- What is carried decides what is read. -/
theorem Carries.decrypt (carries : k.Carries blob nonce payload) :
    k.decrypt blob =
      match Text.decode? payload with
      | some text => .ok text
      | none => .error (.of .notText) := by
  obtain ⟨size, decoded⟩ := carries
  have long : ¬ (nonce ++ Gcm.sealed k.block nonce payload).length < Gcm.nonceSize := by
    rw [List.length_append]
    omega
  rw [KeyCipher.decrypt, if_neg (Carries.ne_empty ⟨size, decoded⟩), decoded]
  dsimp only
  rw [if_neg long, List.take_left' size, List.drop_left' size]
  cases read : Text.decode? payload with
  | none => simp only [Gcm.opened?_sealed sized, read]
  | some text => simp only [Gcm.opened?_sealed sized, read]

private theorem Carries.unique {nonce' payload' : Bytes} (carries : k.Carries blob nonce payload)
    (carries' : k.Carries blob nonce' payload') : nonce' = nonce ∧ payload' = payload := by
  obtain ⟨size, decoded⟩ := carries
  obtain ⟨size', decoded'⟩ := carries'
  have same := Option.some.inj (decoded'.symm.trans decoded)
  obtain ⟨rfl, rest⟩ := List.append_inj same (size'.trans size.symm)
  exact ⟨rfl, Gcm.sealed_inj sized rest⟩

/-- A blob carries something or is refused. -/
theorem carries_or_refused (written : blob ≠ "") :
    (∃ nonce payload, k.Carries blob nonce payload) ∨
      ∃ note, k.decrypt blob = .error ⟨.badCiphertext, note⟩ := by
  cases decoded : Base64.decode? blob.toList with
  | none =>
    refine .inr ⟨undecodable.note, ?_⟩
    rw [KeyCipher.decrypt, if_neg written, decoded]
    rfl
  | some bytes =>
    by_cases short : bytes.length < Gcm.nonceSize
    · exact .inr ⟨_, decode?_short decoded short written⟩
    · have size : (bytes.take Gcm.nonceSize).length = Gcm.nonceSize := by
        rw [List.length_take]
        omega
      have parts : Base64.decode? blob.toList =
          some (bytes.take Gcm.nonceSize ++ bytes.drop Gcm.nonceSize) := by
        rw [decoded, List.take_append_drop]
      cases opened : Gcm.opened? k.block (bytes.take Gcm.nonceSize) (bytes.drop Gcm.nonceSize) with
      | none => exact .inr ⟨_, decrypt_of_not_opened parts size opened⟩
      | some payload =>
        exact .inl ⟨_, payload, size, by rw [parts, Gcm.sealed_of_opened? sized opened]⟩

private theorem Carries.not_refused (carries : k.Carries blob nonce payload) :
    k.decrypt blob ≠ .error ⟨.badCiphertext, note⟩ := by
  rw [carries.decrypt sized]
  cases Text.decode? payload with
  | none => simp [Fault.of]
  | some text => simp

theorem decrypt_encrypt (text : String) (e : Entropy) : k.decrypt (k.encrypt text e).1 = .ok text := by
  by_cases empty : text = ""
  · rw [empty, encrypt_empty]
    exact if_pos rfl
  · rw [(carries_encrypt e empty).decrypt sized, Text.decode?_encode]

/-- A text that is not empty is read from what carries it, and from nothing else. -/
theorem decrypt_eq_ok_iff (written : text ≠ "") :
    k.decrypt blob = .ok text ↔ ∃ nonce, k.Carries blob nonce (Text.encode text) := by
  constructor
  · intro read
    by_cases empty : blob = ""
    · rw [KeyCipher.decrypt, if_pos empty] at read
      exact absurd (Except.ok.inj read).symm written
    · rcases carries_or_refused sized empty with ⟨nonce, payload, carries⟩ | ⟨note, refused⟩
      · rw [carries.decrypt sized] at read
        cases decoded : Text.decode? payload with
        | none => rw [decoded] at read; cases read
        | some other =>
          rw [decoded] at read
          obtain rfl := Except.ok.inj read
          exact ⟨nonce, Text.encode_of_decode? decoded ▸ carries⟩
      · rw [refused] at read
        cases read
  · rintro ⟨nonce, carries⟩
    rw [carries.decrypt sized, Text.decode?_encode]

end

/-- What a cipher does with texts and with blobs. -/
structure Sealing (k : KeyCipher) : Prop where
  /-- A text is read back, whatever nonce was drawn for it. -/
  drawn : ∀ (text : String) (e : Entropy), k.decrypt (k.encrypt text e).1 = .ok text
  opens : ∀ (text : String) (nonce : Bytes), nonce.length = Gcm.nonceSize →
    k.decrypt (k.sealed nonce text) = .ok text
  /-- What is read, if it is not empty, is what the blob carries. -/
  only : ∀ blob text, text ≠ "" →
    (k.decrypt blob = .ok text ↔ ∃ nonce, k.Carries blob nonce (Text.encode text))
  /-- The blobs that are refused are those that carry nothing. -/
  refuses : ∀ blob, blob ≠ "" → ((∃ note, k.decrypt blob = .error ⟨.badCiphertext, note⟩) ↔
    ∀ nonce payload, ¬ k.Carries blob nonce payload)
  /-- What is carried may be empty or no text, and there is no other outcome. -/
  outcomes : ∀ blob, blob ≠ "" →
    (∃ text, text ≠ "" ∧ k.decrypt blob = .ok text) ∨
      (∃ nonce, k.Carries blob nonce [] ∧ k.decrypt blob = .ok "") ∨
      (∃ nonce payload, k.Carries blob nonce payload ∧ Text.decode? payload = none ∧
        k.decrypt blob = .error (.of .notText)) ∨
      ∃ note, k.decrypt blob = .error ⟨.badCiphertext, note⟩
  /-- Encryption makes nothing but blobs that carry a text, and not the empty one. -/
  made : ∀ text e nonce payload, k.Carries (k.encrypt text e).1 nonce payload →
    text ≠ "" ∧ payload = Text.encode text ∧ payload ≠ []
  garbled : ∀ blob : String, Base64.decode? blob.toList = none → k.decrypt blob = .error undecodable
  short : ∀ (blob : String) bytes, blob ≠ "" → Base64.decode? blob.toList = some bytes →
    bytes.length < Gcm.nonceSize + Gcm.tagSize →
      ∃ note, k.decrypt blob = .error ⟨.badCiphertext, note⟩
  /-- A blob of other bytes is refused, unless it is itself what sealing makes of something else. -/
  altered : ∀ blob other nonce payload, k.Carries blob nonce payload → other ≠ "" →
    Base64.decode? other.toList ≠ Base64.decode? blob.toList →
      (∃ note, k.decrypt other = .error ⟨.badCiphertext, note⟩) ∨
        ∃ nonce' payload', k.Carries other nonce' payload' ∧
          (nonce', payload') ≠ (nonce, payload)
  /-- Nothing opens with a tag that is not its own. -/
  retagged : ∀ (blob : String) nonce payload tag, nonce.length = Gcm.nonceSize →
    tag.length = Gcm.tagSize → tag ≠ Gcm.tag k.block nonce (Gcm.combine k.block nonce payload) →
      Base64.decode? blob.toList = some (nonce ++ (Gcm.combine k.block nonce payload ++ tag)) →
        k.decrypt blob = .error notAuthentic
  /-- A text sealed with another cipher does not open, unless this one could have sealed it so. -/
  foreign : ∀ (other : KeyCipher) nonce text, nonce.length = Gcm.nonceSize →
    (∀ payload, Gcm.sealed other.block nonce (Text.encode text) ≠ Gcm.sealed k.block nonce payload) →
      k.decrypt (other.sealed nonce text) = .error notAuthentic

private theorem sealing_of_sized (sized : ∀ block, (k.block block).length = Gcm.blockSize) : k.Sealing where
  drawn := decrypt_encrypt sized
  opens text nonce size := by
    rw [(carries_sealed size text).decrypt sized, Text.decode?_encode]
  only _ _ := decrypt_eq_ok_iff sized
  refuses blob written := by
    constructor
    · rintro ⟨note, refused⟩ nonce payload carries
      exact carries.not_refused sized refused
    · intro nothing
      rcases carries_or_refused sized written with ⟨nonce, payload, carries⟩ | refused
      · exact absurd carries (nothing nonce payload)
      · exact refused
  outcomes blob written := by
    rcases carries_or_refused sized written with ⟨nonce, payload, carries⟩ | refused
    · have read := carries.decrypt sized
      cases decoded : Text.decode? payload with
      | none =>
        rw [decoded] at read
        exact .inr (.inr (.inl ⟨nonce, payload, carries, decoded, read⟩))
      | some text =>
        rw [decoded] at read
        by_cases empty : text = ""
        · subst empty
          have nothing : payload = [] := (Text.encode_of_decode? decoded).symm
          exact .inr (.inl ⟨nonce, nothing ▸ carries, read⟩)
        · exact .inl ⟨text, empty, read⟩
    · exact .inr (.inr (.inr refused))
  made text e nonce payload carries := by
    have written : text ≠ "" := by
      rintro rfl
      exact carries.ne_empty (congrArg Prod.fst (encrypt_empty k e))
    obtain ⟨-, rfl⟩ := (carries_encrypt e written).unique sized carries
    exact ⟨written, rfl, fun nothing => written (Text.encode_eq_nil nothing)⟩
  garbled blob undecoded := by
    have written : blob ≠ "" := by
      rintro rfl
      cases undecoded
    rw [KeyCipher.decrypt, if_neg written, undecoded]
  short blob bytes written decoded size := by
    rcases carries_or_refused sized written with ⟨nonce, payload, length, carried⟩ | refused
    · obtain rfl := Option.some.inj (decoded.symm.trans carried)
      rw [List.length_append, Gcm.length_sealed sized] at size
      omega
    · exact refused
  altered blob other nonce payload carries written apart := by
    rcases carries_or_refused sized written with ⟨nonce', payload', carries'⟩ | refused
    · refine .inr ⟨nonce', payload', carries', ?_⟩
      intro same
      obtain ⟨rfl, rfl⟩ := Prod.mk.inj same
      exact apart (carries'.2.trans carries.2.symm)
    · exact .inl refused
  retagged blob nonce payload tag size length apart decoded := by
    refine decrypt_of_not_opened decoded size ?_
    cases opened : Gcm.opened? k.block nonce (Gcm.combine k.block nonce payload ++ tag) with
    | none => rfl
    | some payload' =>
      have authentic := Gcm.sealed_of_opened? sized opened
      obtain ⟨hidden, tagged⟩ :=
        List.append_inj' authentic (length.trans (Gcm.length_tag sized _ _).symm)
      exact absurd (hidden ▸ tagged) apart
  foreign other nonce text size apart := by
    refine decrypt_of_not_opened (decode?_sealed other nonce text) size ?_
    cases opened : Gcm.opened? k.block nonce (Gcm.sealed other.block nonce (Text.encode text)) with
    | none => rfl
    | some payload => exact absurd (Gcm.sealed_of_opened? sized opened) (apart payload)

/-- Every master secret that is long enough makes a cipher, and this cipher reads what it has sealed
and nothing else. -/
theorem seals {master : String} (long : shortestMaster ≤ (Text.encode master).length) :
    ∃ k, ofMaster master = .ok k ∧ k.Sealing := by
  have made : ofMaster master = .ok ⟨Aes.keySchedule (Sha256.digest (Text.encode master))⟩ :=
    if_neg (Nat.not_lt.mpr long)
  exact ⟨_, made, sealing_of_sized (length_block made)⟩

theorem seals_sixteen : shortestMaster ≤ (Text.encode "0123456789abcdef").length ∧
    ∃ k, ofMaster "0123456789abcdef" = .ok k ∧ k.Sealing :=
  ⟨by decide, seals (by decide)⟩

end MemoAssist.KeyCipher
