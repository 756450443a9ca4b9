import MemoAssist.Json.Decoding

namespace MemoAssist.Json

variable {room fuel : Nat} {s rest : List Char} {v : Json} {bytes : Text.Bytes}

/-! ### What is read -/

theorem decoded?_eq_some : decoded? s = some v ↔ isTooDeep s = false ∧ read? s = some v := by
  unfold decoded?
  cases isTooDeep s <;> simp

theorem readBytes?_eq (text : Text.decodeDocument? bytes = some s) : readBytes? bytes = decoded? s := by
  rw [readBytes?, text, Option.bind_some]

theorem areTooDeep_of_readBytes? (read : readBytes? bytes = some v) : areTooDeep bytes = false := by
  obtain ⟨text, decoded, value⟩ := Option.bind_eq_some_iff.mp read
  rw [areTooDeep, decoded]
  exact (decoded?_eq_some.mp value).1

mutual

/-- How many arrays and objects are around the innermost value. -/
def depth : Json → Nat
  | .arr items => depthOfItems items + 1
  | .obj fields => depthOfFields fields + 1
  | _ => 0

def depthOfItems : List Json → Nat
  | [] => 0
  | item :: rest => max (depth item) (depthOfItems rest)

def depthOfFields : List (String × Json) → Nat
  | [] => 0
  | (_, value) :: rest => max (depth value) (depthOfFields rest)

end

/-- A field takes the depth of its value to the others, or takes the place of an old one. -/
theorem depthOfFields_put (name : String) (value : Json) (fields : List (String × Json)) :
    depthOfFields (put name value fields) ≤ max (depth value) (depthOfFields fields) := by
  induction fields with
  | nil => simp [put, depthOfFields]
  | cons field rest ih =>
    obtain ⟨other, old⟩ := field
    rw [put]
    split
    · simp only [depthOfFields]
      omega
    · simp only [depthOfFields]
      omega

mutual

private theorem depth_of_value? : ∀ (fuel room : Nat) {s rest : List Char} {v : Json},
    value? fuel s = some (v, rest) → valueOverruns room fuel s = false → depth v ≤ room
  | 0, _, _, _, _ => fun read => nomatch read
  | fuel + 1, room, s, rest, v => fun read fits => by
    unfold value? at read
    split at read
    · obtain ⟨_, -, same⟩ := Option.map_eq_some_iff.mp read
      cases same
      exact Nat.zero_le _
    · next inside =>
      cases room with
      | zero => exact absurd fits (by simp [valueOverruns])
      | succ room =>
        simp only [valueOverruns] at fits
        split at read
        · cases read
          exact Nat.succ_le_succ (Nat.zero_le _)
        · obtain ⟨_, within, same⟩ := Option.map_eq_some_iff.mp read
          cases same
          exact Nat.succ_le_succ (depth_of_fields? fuel room (Nat.zero_le _) within (by simpa using fits))
    · next inside =>
      cases room with
      | zero => exact absurd fits (by simp [valueOverruns])
      | succ room =>
        simp only [valueOverruns] at fits
        split at read
        · cases read
          exact Nat.succ_le_succ (Nat.zero_le _)
        · obtain ⟨_, within, same⟩ := Option.map_eq_some_iff.mp read
          cases same
          exact Nat.succ_le_succ (depth_of_items? fuel room within (by simpa using fits))
    -- The words and numbers have no depth.
    iterate 6
      · cases read
        exact Nat.zero_le _
    · obtain ⟨_, found, same⟩ := Option.map_eq_some_iff.mp read
      cases same
      exact Nat.zero_le _

private theorem depth_of_items? : ∀ (fuel room : Nat) {s rest : List Char} {items : List Json},
    items? fuel s = some (items, rest) → itemsOverrun room fuel s = false →
      depthOfItems items ≤ room
  | 0, _, _, _, _ => fun read => nomatch read
  | fuel + 1, room, s, rest, items => fun read fits => by
    rw [items?.eq_2, Option.bind_eq_bind, Option.bind_eq_some_iff] at read
    obtain ⟨⟨item, more⟩, first, read⟩ := read
    rw [itemsOverrun, Bool.or_eq_false_iff, first] at fits
    obtain ⟨shallow, fits⟩ := fits
    have inside := depth_of_value? fuel room first shallow
    dsimp only at read fits
    split at read
    · cases read
      simpa [depthOfItems] using inside
    · next comma =>
      rw [Option.bind_eq_bind, Option.bind_eq_some_iff] at read
      obtain ⟨⟨others, _⟩, later, read⟩ := read
      cases read
      rw [comma] at fits
      exact Nat.max_le.mpr ⟨inside, depth_of_items? fuel room later fits⟩
    · cases read

private theorem depth_of_fields? : ∀ (fuel room : Nat) {before fields : List (String × Json)}
    {s rest : List Char}, depthOfFields before ≤ room → fields? fuel before s = some (fields, rest) →
      fieldsOverrun room fuel s = false → depthOfFields fields ≤ room
  | 0, _, _, _, _, _ => fun _ read => nomatch read
  | fuel + 1, room, before, fields, s, rest => fun known read fits => by
    obtain ⟨quoted, rfl⟩ : ∃ quoted, s = '"' :: quoted := by
      unfold fields? at read
      split at read
      · exact ⟨_, rfl⟩
      · cases read
    rw [fields?.eq_2, Option.bind_eq_bind, Option.bind_eq_some_iff] at read
    obtain ⟨⟨name, more⟩, named, read⟩ := read
    rw [fieldsOverrun, named] at fits
    dsimp only at read fits
    split at read
    · next colon =>
      rw [Option.bind_eq_bind, Option.bind_eq_some_iff] at read
      obtain ⟨⟨value, _⟩, first, read⟩ := read
      simp only [colon, first, Bool.or_eq_false_iff] at fits
      obtain ⟨shallow, fits⟩ := fits
      have added : depthOfFields (put (String.ofList name) value before) ≤ room :=
        Nat.le_trans (depthOfFields_put _ _ _)
          (Nat.max_le.mpr ⟨depth_of_value? fuel room first shallow, known⟩)
      dsimp only at read
      split at read
      · cases read
        exact added
      · next comma =>
        rw [comma] at fits
        exact depth_of_fields? fuel room added read fits
      · cases read
    · cases read

end

/-- A text that is not too deep holds no value that is. -/
theorem depth_of_decoded? (decoded : decoded? s = some v) : depth v ≤ deepest := by
  obtain ⟨fits, read⟩ := decoded?_eq_some.mp decoded
  rw [read?] at read
  split at read
  · next value rest found =>
    obtain ⟨-, same⟩ := Option.ite_none_right_eq_some.mp read
    cases same
    exact depth_of_value? _ _ found fits
  · cases read

/-! ### What is too deep -/

private theorem valueOverruns_brackets (room : Nat) (rest : List Char) : ∀ fuel, 2 * room < fuel →
    valueOverruns room fuel (List.replicate (room + 1) '[' ++ rest) = true := by
  induction room with
  | zero =>
    intro fuel enough
    obtain ⟨fuel, rfl⟩ := Nat.exists_eq_add_one_of_ne_zero (Nat.ne_zero_of_lt enough)
    rfl
  | succ room ih =>
    intro fuel enough
    -- One call is for the array and one for its items.
    obtain ⟨fuel, rfl⟩ : ∃ more, fuel = more + 1 + 1 := ⟨fuel - 2, by omega⟩
    have inner := ih fuel (by omega)
    change itemsOverrun room (fuel + 1) (List.replicate (room + 1) '[' ++ rest) = true
    rw [itemsOverrun, inner, Bool.true_or]

/-- It is no matter what follows the brackets, and whether they are ever closed. -/
theorem isTooDeep_brackets {count : Nat} (many : deepest < count) (rest : List Char) :
    isTooDeep (List.replicate count '[' ++ rest) = true := by
  obtain ⟨more, rfl⟩ := Nat.exists_eq_add_of_le many
  rw [← List.replicate_append_replicate, List.append_assoc]
  refine valueOverruns_brackets deepest _ _ ?_
  simp only [callsFor, List.length_append, List.length_replicate]
  omega

end MemoAssist.Json
