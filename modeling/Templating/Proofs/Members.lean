import Templating.Value.Shape

/-!
# Numbered elements

The elements of lists, tuples, ranges and buffers have numbers. Looking one of them up comes to the
same as listing all of them first (`Value.elementAt?_eq`), and their length is how many they are
(`Value.length_of_elements`). Only the elements of a range take no room, so only a range can have
more than can be counted (`Value.IsVast`).
-/

namespace Templating

namespace Value

variable {v : Value} {items : List Value}

/-- Whether a value is a range with more numbers than can be counted. -/
def IsVast (v : Value) : Prop :=
  ∃ r : IntRange, v = .range r ∧ lengthLimit ≤ r.length

theorem isIndexed_iff : v.isIndexed = true ↔ ∃ items, v.elements? = some items := by
  cases v with
  | list _ | tuple _ | callableList _ _ | buffer _ | range _ =>
      exact ⟨fun _ => ⟨_, rfl⟩, fun _ => rfl⟩
  | _ => exact ⟨nofun, nofun⟩

theorem elements?_of_isSequence (h : v.isSequence = true) : v.elements? = some v.items := by
  cases v with
  | list _ | tuple _ | callableList _ _ | range _ => rfl
  | _ => cases h

/-- Looking up one element counts in the row of all of them. -/
theorem elementAt?_eq (h : v.elements? = some items) (i : Nat) : v.elementAt? i = items[i]? := by
  cases v with
  | range r =>
      cases h
      show (if _ then _ else _) = _
      rw [ofRange, List.getElem?_map, r.getElem?_numbers]
      split
      · rfl
      · rfl
  | list _ | tuple _ | callableList _ _ | buffer _ =>
      simp only [elementAt?, h, Option.bind_some]
  | _ => cases h

theorem length_of_not_isVast (h : v.elements? = some items) (hv : ¬ v.IsVast) :
    v.length = .ok items.length := by
  cases v with
  | list _ | tuple _ | callableList _ _ =>
      cases h
      rfl
  | buffer bs =>
      cases h
      exact congrArg Except.ok (List.length_map _).symm
  | range r =>
      cases h
      have hlength : r.length < lengthLimit := Nat.lt_of_not_le fun hle => hv ⟨r, rfl, hle⟩
      rw [length_ofRange, length, if_pos hlength]
  | _ => cases h

theorem length_of_isVast (h : v.IsVast) : v.length = .error .lengthLimit := by
  obtain ⟨r, rfl, hle⟩ := h
  exact if_neg (Nat.not_lt.2 hle)

/-- **The length of a value is how many elements it has**, if they can be counted. -/
theorem length_of_elements (h : v.elements? = some items) :
    v.length = .ok items.length ∨ v.length = .error .lengthLimit := by
  by_cases hv : v.IsVast
  · exact .inr (length_of_isVast hv)
  · exact .inl (length_of_not_isVast h hv)

theorem not_isVast_of_lt (h : v.elements? = some items) (hlt : items.length < lengthLimit) :
    ¬ v.IsVast := by
  rintro ⟨r, rfl, hle⟩
  cases h
  rw [length_ofRange] at hlt
  omega

theorem length_ne_zero_of_isVast (h : v.elements? = some items) (hv : v.IsVast) :
    items.length ≠ 0 := by
  intro hzero
  have hpos : 0 < lengthLimit := by decide +kernel
  exact not_isVast_of_lt h (hzero ▸ hpos) hv

/-- A name looked up among numbered elements. -/
theorem member_of_elements (h : v.elements? = some items) (name : String) :
    v.member name = if isIndexName name then do
      let i ← Integer.ofDigits 10 name.toList
      v.length.map fun _ => items[i]?.getD .none
    else .ok .none := by
  have hmember : v.member name = if isIndexName name then do
      let i ← Integer.ofDigits 10 name.toList
      v.length.map fun count => if i < count then (v.elementAt? i).getD .none else .none
    else .ok .none := by
    cases v with
    | list _ | tuple _ | callableList _ _ | buffer _ | range _ => rfl
    | _ => cases h
  have hfound (i : Nat) : (if i < items.length then (v.elementAt? i).getD .none else .none) =
      items[i]?.getD .none := by
    rw [elementAt?_eq h]
    split
    · rfl
    · rw [List.getElem?_eq_none (by omega)]
      rfl
  rw [hmember]
  rcases length_of_elements h with hlength | hlength
  · simp only [hlength, Except.map, hfound]
  · simp only [hlength, Except.map]

end Value

end Templating
