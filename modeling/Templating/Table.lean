/-!
# Tables

A table gives values to names and keeps the order in which the names were first entered. A layered
table looks first in its front and then in its back; it is changed only in front.
-/

namespace Templating

/-- Values under names, in order. Where a name stands twice, its first place counts. -/
abbrev Table (α : Type) := List (String × α)

namespace Table

variable {α : Type}

/-- The value under a name. -/
def get? (t : Table α) (name : String) : Option α :=
  t.lookup name

/-- Sets the value under a name, at its place if it has one and at the end if not. -/
def set : Table α → String → α → Table α
  | [], name, value => [(name, value)]
  | (n, v) :: rest, name, value =>
    if n = name then (n, value) :: rest else (n, v) :: set rest name value

/-- Takes a name out, wherever it stands. -/
def erase (t : Table α) (name : String) : Table α :=
  t.filter (·.1 ≠ name)

@[simp] theorem get?_nil (name : String) : get? ([] : Table α) name = none := rfl

theorem get?_cons (n name : String) (v : α) (t : Table α) :
    get? ((n, v) :: t) name = if name = n then some v else t.get? name := by
  by_cases h : name = n
  · simp [get?, h]
  · simp [get?, List.lookup_cons, beq_eq_false_iff_ne.2 h, h]

theorem get?_set (t : Table α) (name other : String) (value : α) :
    (t.set name value).get? other = if other = name then some value else t.get? other := by
  induction t with
  | nil => simp [set, get?_cons]
  | cons entry t ih =>
    obtain ⟨n, v⟩ := entry
    unfold set
    split <;> simp only [get?_cons, ih] <;> grind

theorem get?_erase (t : Table α) (name other : String) :
    (t.erase name).get? other = if other = name then none else t.get? other := by
  induction t with
  | nil => simp [erase]
  | cons entry t ih =>
    obtain ⟨n, v⟩ := entry
    simp only [erase, List.filter_cons] at ih ⊢
    split <;> simp only [get?_cons, ih] <;> grind

theorem get?_append (s t : Table α) (name : String) :
    get? (s ++ t) name = (s.get? name).or (t.get? name) := by
  induction s with
  | nil => simp
  | cons entry s ih =>
    obtain ⟨n, v⟩ := entry
    rw [List.cons_append, get?_cons, get?_cons, ih]
    split <;> rfl

end Table

/-- A table over another one. -/
structure Layered (α : Type) where
  front : Table α
  back : Table α

namespace Layered

variable {α : Type}

/-- The value under a name, from the front if it is there. -/
def get? (l : Layered α) (name : String) : Option α :=
  (l.front.get? name).or (l.back.get? name)

/-- Sets the value under a name in front. -/
def set (l : Layered α) (name : String) (value : α) : Layered α :=
  { l with front := l.front.set name value }

/-- Takes a name out of the front, if it is there. -/
def erase? (l : Layered α) (name : String) : Option (Layered α) :=
  if (l.front.get? name).isSome then some { l with front := l.front.erase name } else none

/-- The names of both layers, each once. -/
def names (l : Layered α) : List String :=
  (l.front ++ l.back).map (·.1) |>.eraseDups

/-- The entries that can be found, by name in the order of code points. -/
def entries (l : Layered α) : Table α :=
  (l.names.mergeSort fun a b => decide (a ≤ b)).filterMap fun name =>
    (l.get? name).map (name, ·)

end Layered

end Templating
