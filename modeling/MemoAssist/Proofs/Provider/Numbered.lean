import MemoAssist.Proofs.Json.Ordering
import MemoAssist.Proofs.Provider.Listings

namespace MemoAssist

open Json

variable {fields : Fields} {v : Json}

private theorem orElse_arr (items : List Json) : (Json.arr items).orElse (.arr []) = .arr items := by
  cases items <;> rfl

private theorem fieldOr_arr {key : String} {items : List Json} (listed : find? key fields = some (.arr items)) :
    Provider.fieldOr fields key (.arr []) = .arr items := by
  rw [Provider.fieldOr, Provider.fieldOf, listed]
  exact orElse_arr items

theorem readObject_of_held {body : Text.Bytes} (what : String)
    (held : readBytes? body = some (.obj fields)) : Provider.readObject body what = .ok fields := by
  rw [Provider.readObject, held]

namespace OpenAI

/-- The vector of an item. -/
def vector : Json → Json
  | .obj item => Provider.fieldOr item "embedding" (.arr [])
  | _ => .arr []

/-- Objects that report the numbers below `count`, each once and in any order. -/
structure Numbered (count : Nat) (items : List Json) : Prop where
  objects : ∀ item ∈ items, item.AnyObject
  indices : (items.map index).Perm ((List.range count).map fun i : Nat => .int i)

/-- The whole number that an index is, if it is one. -/
def number : Json → Int
  | .num (.int n) => n
  | _ => 0

/-- An item under an index that is a whole number. -/
def IsNumbered (keyed : Json × Json) : Prop := ∃ n, keyed.1 = .int n

private theorem tells_less :
    Sorting.Tells IsNumbered (fun keyed => number keyed.1) fun a b => Json.less a.1 b.1 := by
  rintro ⟨_, _⟩ ⟨_, _⟩ ⟨m, rfl⟩ ⟨n, rfl⟩
  rfl

private theorem inOrder_numbered {items : List (Json × Json)}
    (numbered : ∀ item ∈ items, IsNumbered item) :
    ∃ sorted, inOrder items = .ok sorted ∧ sorted.Perm items ∧
      Sorting.Rising (fun keyed => number keyed.1) sorted := by
  have ordered : (items.any fun item => item.1.hasUnordered) = false := by
    refine List.any_eq_false.mpr fun item member => ?_
    obtain ⟨n, whole⟩ := numbered item member
    rw [whole]
    exact Bool.false_ne_true
  have fair : Sorting.Fair Fault.IsStray fun a b : Json × Json => Json.less a.1 b.1 :=
    fun _ _ => strays_less
  obtain ⟨sorted, done, perm, rising⟩ := Sorting.sort_rising fair tells_less numbered
  refine ⟨sorted, ?_, perm, rising⟩
  rw [inOrder, ordered]
  exact done

/-- What is sorted by the numbers below a bound, each once, stands where its number says. -/
theorem numbers_sorted {count : Nat} {sorted : List (Json × Json)}
    (rising : Sorting.Rising (fun keyed => number keyed.1) sorted)
    (indices : (sorted.map Prod.fst).Perm ((List.range count).map fun i : Nat => .int i)) :
    sorted.map (fun keyed => number keyed.1) = (List.range count).map fun i : Nat => (i : Int) := by
  have perm := indices.map number
  rw [List.map_map, List.map_map] at perm
  refine List.Perm.eq_of_pairwise (fun _ _ _ _ => le_antisymm) (List.pairwise_map.mpr rising) ?_ perm
  rw [List.pairwise_map]
  exact List.pairwise_le_range.imp fun smaller => Int.ofNat_le.mpr smaller

theorem Numbered.sorted {count : Nat} {items : List Json} (numbered : Numbered count items) :
    ∃ sorted, inOrder (items.map fun item => (index item, item)) = .ok sorted ∧
      sorted.Perm (items.map fun item => (index item, item)) ∧ sorted.length = count ∧
        ∀ item ∈ items, ∀ i : Nat, index item = .int i → sorted[i]? = some (index item, item) := by
  have whole : ∀ keyed ∈ items.map fun item => (index item, item), IsNumbered keyed := by
    intro keyed member
    obtain ⟨item, listed, rfl⟩ := List.mem_map.mp member
    obtain ⟨i, -, same⟩ := List.mem_map.mp (numbered.indices.mem_iff.mp (List.mem_map_of_mem listed))
    exact ⟨i, same.symm⟩
  obtain ⟨sorted, done, perm, rising⟩ := inOrder_numbered whole
  have indices : (sorted.map Prod.fst).Perm ((List.range count).map fun i : Nat => .int i) := by
    refine (perm.map Prod.fst).trans ?_
    rw [List.map_map]
    exact numbered.indices
  have numbers := numbers_sorted rising indices
  refine ⟨sorted, done, perm, by simpa using congrArg List.length numbers, fun item listed i own => ?_⟩
  obtain ⟨j, found⟩ := List.mem_iff_getElem?.mp (perm.mem_iff.mpr (List.mem_map_of_mem listed))
  -- The item stands somewhere, and its number tells where.
  have there : (sorted.map fun keyed => number keyed.1)[j]? = some (i : Int) := by
    rw [List.getElem?_map, found, Option.map_some, own]
    rfl
  rw [numbers, List.getElem?_map, Option.map_eq_some_iff] at there
  obtain ⟨k, inRange, equal⟩ := there
  obtain ⟨within, rfl⟩ := List.getElem?_eq_some_iff.mp inRange
  rw [List.getElem_range, Int.ofNat_inj] at equal
  rw [← equal]
  exact found

/-- An account of tokens that is no object has no fields to read. -/
theorem readUsage_stray {v : Json} (misfit : ¬ OrBlank AnyObject v) :
    readUsage v = .error (.of .noSuchField) := by
  rw [← anyObject_orElse] at misfit
  unfold readUsage
  revert misfit
  cases v.orElse (.obj []) with
  | obj fields => exact fun misfit => absurd trivial misfit
  | _ => exact fun _ => rfl

/-- The vectors of numbered items, each at its place. -/
theorem readEmbeddings_numbered {body : Text.Bytes} {reply : Fields} {items : List Json} {count : Nat}
    (held : readBytes? body = some (.obj reply)) (listed : find? "data" reply = some (.arr items))
    (numbered : Numbered count items) :
    ∃ vectors, vectors.length = count ∧
      (∀ item ∈ items, ∀ i : Nat, index item = .int i → vectors[i]? = some (vector item)) ∧
        readEmbeddings body = (readUsage (Provider.fieldOf reply "usage" .null)).map fun usage =>
          { embeddings := vectors, model := Provider.fieldOf reply "model" (.str "")
            usage := some usage } := by
  obtain ⟨sorted, ordered, perm, full, placed⟩ := numbered.sorted
  have keyed : indexed items = .ok (items.map fun item => (index item, item)) :=
    indexed_ok.mpr ⟨numbered.objects, rfl⟩
  refine ⟨sorted.map fun keyed => vector keyed.2, by rw [List.length_map, full],
    fun item member i own => ?_, ?_⟩
  · rw [List.getElem?_map, placed item member i own]
    rfl
  · have read : (sorted.mapM fun keyed : Json × Json => do
        return (← keyed.2.field "embedding" .null).orElse (.arr [])) =
          .ok (sorted.map fun keyed => vector keyed.2) := by
      refine mapM_eq_ok.mpr (List.forall₂_map_right_iff.mpr (List.forall₂_same.mpr fun pair member => ?_))
      obtain ⟨item, inside, rfl⟩ := List.mem_map.mp (perm.mem_iff.mp member)
      have object := numbered.objects item inside
      cases item with
      | obj own => rfl
      | _ => exact object.elim
    have parts : (Provider.fieldOr reply "data" (.arr [])).parts = .ok items := by
      rw [fieldOr_arr listed]
      rfl
    rw [readEmbeddings, bind_of_ok (readObject_of_held _ held), bind_of_ok parts, bind_of_ok keyed,
      bind_of_ok ordered, bind_of_ok read]
    cases readUsage (Provider.fieldOf reply "usage" .null) <;> rfl

end OpenAI

end MemoAssist
