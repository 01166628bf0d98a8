import FormulaLexer.Text

/-! Looking up in maps whose keys ascend. A change of one key brings in no other key and keeps the order,
so that each key has one entry at most, and all keys but the changed one are looked up as before. -/
namespace FormulaLexer.KeyMaps

variable {α : Type} {map : KeyMap α} {key : Text} {change : Option α → α}

/-- The keys of a map ascend, so that each has one entry at most. -/
def Ascending (map : KeyMap α) : Prop := map.Pairwise fun a b => a.1 < b.1

theorem find_cons (entry : Text × α) (map : KeyMap α) (key : Text) :
    KeyMap.find? key (entry :: map) = if entry.1 = key then some entry.2 else map.find? key := by
  simp only [KeyMap.find?, List.find?_cons]
  split <;> simp_all

/-- A key in front of the first one is in front of all. -/
theorem in_front {first : Text × α} (ascending : Ascending (first :: map)) (before : key < first.1) :
    ∀ entry ∈ first :: map, key < entry.1 := by
  intro entry member
  rcases List.mem_cons.mp member with rfl | member
  · exact before
  · exact List.lt_trans before ((List.pairwise_cons.mp ascending).1 entry member)

/-- A key in front of all others has no entry. -/
theorem find_in_front (front : ∀ entry ∈ map, key < entry.1) : map.find? key = none := by
  rw [KeyMap.find?, Option.map_eq_none_iff, List.find?_eq_none]
  intro entry member same
  have less := front entry member
  rw [of_decide_eq_true same] at less
  exact List.lt_irrefl key less

/-- Every entry is what its key is looked up as. -/
theorem find_of_mem (ascending : Ascending map) {entry : Text × α} (member : entry ∈ map) :
    map.find? entry.1 = some entry.2 := by
  induction map with
  | nil => cases member
  | cons first map ih =>
    obtain ⟨less, later⟩ := List.pairwise_cons.mp ascending
    rw [find_cons]
    rcases List.mem_cons.mp member with rfl | member
    · rw [if_pos rfl]
    · have different : first.1 ≠ entry.1 := by
        intro same
        have before := less entry member
        rw [same] at before
        exact List.lt_irrefl _ before
      rw [if_neg different]
      exact ih later member

/-- A change brings in no other key than its own. -/
theorem alter_keys {entry : Text × α} (member : entry ∈ map.alter key change) :
    entry.1 = key ∨ ∃ old ∈ map, old.1 = entry.1 := by
  induction map with
  | nil =>
    rw [KeyMap.alter, List.mem_singleton] at member
    exact .inl (by rw [member])
  | cons first map ih =>
    rw [KeyMap.alter] at member
    split at member
    · rcases List.mem_cons.mp member with rfl | member
      · exact .inl rfl
      · exact .inr ⟨entry, member, rfl⟩
    · split at member
      · rcases List.mem_cons.mp member with rfl | member
        · exact .inr ⟨first, by simp, rfl⟩
        · exact .inr ⟨entry, by simp [member], rfl⟩
      · rcases List.mem_cons.mp member with rfl | member
        · exact .inr ⟨_, by simp, rfl⟩
        · rcases ih member with same | ⟨old, listed, same⟩
          · exact .inl same
          · exact .inr ⟨old, by simp [listed], same⟩

theorem alter_ascending (ascending : Ascending map) : Ascending (map.alter key change) := by
  induction map with
  | nil => exact List.pairwise_singleton _ _
  | cons first map ih =>
    obtain ⟨less, later⟩ := List.pairwise_cons.mp ascending
    rw [KeyMap.alter]
    split
    · next before => exact List.pairwise_cons.mpr ⟨in_front ascending before, ascending⟩
    · next notBefore =>
      split
      · exact List.pairwise_cons.mpr ⟨less, later⟩
      · next different =>
        have behind : first.1 < key := by
          rcases List.le_iff_lt_or_eq.mp (List.not_lt.mp notBefore) with less | same
          · exact less
          · exact absurd same.symm different
        refine List.pairwise_cons.mpr ⟨fun entry member => ?_, ih later⟩
        rcases alter_keys member with same | ⟨old, listed, same⟩
        · rw [same]
          exact behind
        · rw [← same]
          exact less old listed

/-- Looked up behind a change, its own key has the new value and all others have what they had. -/
theorem find_alter (ascending : Ascending map) (other : Text) :
    (map.alter key change).find? other =
      if key = other then some (change (KeyMap.find? key map)) else map.find? other := by
  induction map with
  | nil =>
    rw [KeyMap.alter, find_cons]
    rfl
  | cons first map ih =>
    obtain ⟨-, later⟩ := List.pairwise_cons.mp ascending
    rw [KeyMap.alter]
    split
    · next before => rw [find_cons, find_in_front (in_front ascending before)]
    · split
      · next same =>
        subst same
        rw [find_cons, find_cons, find_cons, if_pos rfl]
        split <;> rfl
      · next different =>
        have passed : KeyMap.find? key (first :: map) = KeyMap.find? key map := by
          rw [find_cons, if_neg (fun same => different same.symm)]
        rw [passed, find_cons, find_cons, ih later]
        by_cases here : first.1 = other
        · rw [if_pos here, if_pos here, if_neg (fun same => different (same.trans here.symm))]
        · rw [if_neg here, if_neg here]

end FormulaLexer.KeyMaps
