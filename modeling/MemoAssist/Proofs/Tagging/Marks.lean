import MemoAssist.Proofs.Tagging.Keys
import MemoAssist.Proofs.Toml.Strings

namespace MemoAssist

/-! ### Items written side by side -/

section

variable {α β : Type} {f : α → List β} {width : Nat}

/-- Where every item is written in the same width, the front of what is written is the front of the
items. -/
theorem take_flatMap_of_width (wide : ∀ a, (f a).length = width) (count : Nat) (items : List α) :
    (items.flatMap f).take (count * width) = (items.take count).flatMap f := by
  induction items generalizing count with
  | nil => simp
  | cons item rest ih =>
    cases count with
    | zero => simp
    | succ count =>
      have split : (count + 1) * width = (f item).length + count * width := by
        rw [wide, Nat.add_mul, Nat.one_mul, Nat.add_comm]
      rw [List.flatMap_cons, split, List.take_length_add_append, ih, List.take_succ_cons,
        List.flatMap_cons]

/-- Items that are told apart by how they are written make rows that are. -/
theorem flatMap_inj_of_width (wide : ∀ a, (f a).length = width) (positive : 0 < width)
    (apart : ∀ a b, f a = f b → a = b) {items others : List α}
    (same : items.flatMap f = others.flatMap f) : items = others := by
  have filled (a : α) (rest : List β) : f a ++ rest ≠ [] := by
    intro empty
    have size := congrArg List.length empty
    rw [List.length_append, wide] at size
    exact absurd size (Nat.ne_of_gt (Nat.add_pos_left positive _))
  induction items generalizing others with
  | nil =>
    cases others with
    | nil => rfl
    | cons other rest => exact absurd same.symm (filled other _)
  | cons item items ih =>
    cases others with
    | nil => exact absurd same (filled item _)
    | cons other rest =>
      rw [List.flatMap_cons, List.flatMap_cons] at same
      obtain ⟨first, later⟩ := List.append_inj same ((wide item).trans (wide other).symm)
      rw [apart item other first, ih later]

end

/-! ### Digests as digits -/

namespace Text

@[simp] theorem length_hexOfWidth {width n : Nat} : (hexOfWidth width n).length = width := by
  induction width generalizing n with
  | zero => rfl
  | succ width ih => simp [hexOfWidth, ih]

/-- Numbers that fit are told apart by their digits. -/
theorem hexOfWidth_inj {width n m : Nat} (fits : n < 16 ^ width) (fits' : m < 16 ^ width)
    (same : hexOfWidth width n = hexOfWidth width m) : n = m := by
  have read := Toml.hex?_hexOfWidth width 0 n []
  rw [same, Toml.hex?_hexOfWidth, Nat.mod_eq_of_lt fits, Nat.mod_eq_of_lt fits'] at read
  simpa using (Prod.mk.inj (Option.some.inj read)).1.symm

end Text

/-- Two digests begin with the same digits if, and only if, they begin with the same bytes, of which each
is two digits. -/
theorem Sha256.take_hexDigest_eq_iff (count : Nat) {first second : Text.Bytes} :
    (hexDigest first).take (count * 2) = (hexDigest second).take (count * 2) ↔
      (digest first).take count = (digest second).take count := by
  have wide (b : UInt8) : (Text.hexOfWidth 2 b.toNat).length = 2 := Text.length_hexOfWidth
  have apart (a b : UInt8) (same : Text.hexOfWidth 2 a.toNat = Text.hexOfWidth 2 b.toNat) : a = b :=
    UInt8.toNat_inj.mp (Text.hexOfWidth_inj a.toNat_lt b.toNat_lt same)
  rw [hexDigest, hexDigest, take_flatMap_of_width wide, take_flatMap_of_width wide]
  exact ⟨flatMap_inj_of_width wide Nat.two_pos apart, congrArg _⟩

/-! ### Marks -/

namespace Tagging

/-- Different bytes whose digests begin with the same sixteen bytes. -/
def Collide (first second : Text.Bytes) : Prop :=
  first ≠ second ∧ (Sha256.digest first).take 16 = (Sha256.digest second).take 16

variable {content content' : String} {existing existing' : List String}

/-- A mark is the first half of a digest. -/
theorem cacheKey_eq_iff : cacheKey content existing = cacheKey content' existing' ↔
    (Sha256.digest (cacheText content existing)).take 16 =
      (Sha256.digest (cacheText content' existing')).take 16 := by
  rw [cacheKey, cacheKey, String.ofList_inj]
  exact Sha256.take_hexDigest_eq_iff 16

/-- What is digested for a content and a list of tags determines the content, how many tags there are,
which they are and in what order. The mark determines them too, but for collisions of the first half of
the digest. -/
theorem mark_determines (fits : Fitting content existing) (fits' : Fitting content' existing') :
    (cacheText content existing = cacheText content' existing' ↔
      content = content' ∧ existing = existing') ∧
    (cacheKey content existing = cacheKey content' existing' ↔
      content = content' ∧ existing = existing' ∨
        Collide (cacheText content existing) (cacheText content' existing')) := by
  have text : cacheText content existing = cacheText content' existing' ↔
      content = content' ∧ existing = existing' := by
    refine ⟨cacheText_inj fits fits', ?_⟩
    rintro ⟨rfl, rfl⟩
    rfl
  refine ⟨text, ?_⟩
  rw [cacheKey_eq_iff, ← text, Collide]
  constructor
  · intro same
    exact (em _).imp_right fun apart => ⟨apart, same⟩
  · rintro (same | collide)
    · rw [same]
    · exact collide.2

/-- The same letters, once as a content alone and once parted into a content and a tag. -/
theorem mark_determines_parted :
    Fitting "ab" [] ∧ Fitting "a" ["b"] ∧ cacheText "ab" [] ≠ cacheText "a" ["b"] ∧
      (cacheKey "ab" [] = cacheKey "a" ["b"] ↔ Collide (cacheText "ab" []) (cacheText "a" ["b"])) := by
  have whole : Fitting "ab" [] := List.forall_mem_singleton.mpr (by decide)
  have parted : Fitting "a" ["b"] :=
    List.forall_mem_cons.mpr ⟨by decide, List.forall_mem_singleton.mpr (by decide)⟩
  obtain ⟨text, key⟩ := mark_determines whole parted
  have apart : ¬ ("ab" = "a" ∧ ([] : List String) = ["b"]) := by decide
  exact ⟨whole, parted, apart ∘ text.mp, key.trans (or_iff_right apart)⟩

end Tagging

end MemoAssist
