import MemoAssist.Proofs.Text.Encoding
import MemoAssist.Tagging.Config

namespace MemoAssist

namespace Tagging

/-- The length of every part fits into its frame. No text in memory is longer, and there is no mark of
one that is. -/
def Fitting (content : String) (existing : List String) : Prop :=
  ∀ part ∈ content :: existing, (Text.encode part).length < 256 ^ 8

/-- What stands in front of the rest can be read off. -/
theorem framed_inj {part other : String} {rest rest' : Text.Bytes}
    (fits : (Text.encode part).length < 256 ^ 8) (fits' : (Text.encode other).length < 256 ^ 8)
    (same : framed part ++ rest = framed other ++ rest') : part = other ∧ rest = rest' := by
  simp only [framed, List.append_assoc] at same
  obtain ⟨sizes, same⟩ := List.append_inj same (by simp)
  obtain ⟨bytes, same⟩ := List.append_inj same (Octets.ofNat_inj fits fits' sizes)
  exact ⟨Text.encode_inj bytes, same⟩

private theorem framed_ne_nil {part : String} {rest : Text.Bytes} : framed part ++ rest ≠ [] := by
  intro empty
  have size := congrArg List.length empty
  simp [framed] at size

private theorem flatMap_framed_inj {parts others : List String}
    (fits : ∀ part ∈ parts, (Text.encode part).length < 256 ^ 8)
    (fits' : ∀ part ∈ others, (Text.encode part).length < 256 ^ 8)
    (same : parts.flatMap framed = others.flatMap framed) : parts = others := by
  induction parts generalizing others with
  | nil =>
    cases others with
    | nil => rfl
    | cons other rest => exact absurd same.symm framed_ne_nil
  | cons part parts ih =>
    cases others with
    | nil => exact absurd same framed_ne_nil
    | cons other rest =>
      simp only [List.flatMap_cons] at same
      obtain ⟨rfl, rests⟩ := framed_inj (fits part List.mem_cons_self)
        (fits' other List.mem_cons_self) same
      rw [ih (fun next member => fits next (List.mem_cons_of_mem _ member))
        (fun next member => fits' next (List.mem_cons_of_mem _ member)) rests]

/-- Contents and lists of tags are told apart by what goes into their marks. -/
theorem cacheText_inj {content content' : String} {existing existing' : List String}
    (fits : Fitting content existing) (fits' : Fitting content' existing')
    (same : cacheText content existing = cacheText content' existing') :
    content = content' ∧ existing = existing' :=
  List.cons_eq_cons.mp (flatMap_framed_inj fits fits' same)

end Tagging

end MemoAssist
