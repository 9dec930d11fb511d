import Templating.Workspace

/-!
# Tables of registries

Every registry of a workspace has tables of its own, and the table in front of a view is none of
them (`Workspace.Sound`). So what is entered into one registry is found in no other one
(`Workspace.registry_putHelpers`, `Workspace.registry_putPartials`), what is changed through a view
is found in none (`Workspace.registry_congr`), and a registry that is made or copied gets tables
that nothing else knows (`Workspace.registry_add`).
-/

namespace Templating

/-! ## Tables under numbers -/

namespace Store

variable {α : Type} {s : Store α} {owned fronts : List Nat}

theorem get_add (t : Table α) (n : Nat) :
    (s.add t).2.get n = if n = s.tables.length then t else s.get n := by
  rw [add, get, get, List.getElem?_append]
  by_cases hlt : n < s.tables.length
  · rw [if_pos hlt, if_neg (by omega)]
  · rw [if_neg hlt, List.getElem?_singleton, List.getElem?_eq_none (by omega)]
    by_cases heq : n = s.tables.length
    · simp [heq]
    · rw [if_neg (by omega), if_neg heq]

theorem get_add_of_lt (t : Table α) {n : Nat} (h : n < s.tables.length) :
    (s.add t).2.get n = s.get n := by
  rw [get_add, if_neg (by omega)]

theorem get_put {n : Nat} (h : n < s.tables.length) (t : Table α) (m : Nat) :
    (s.put n t).get m = if m = n then t else s.get m := by
  rw [put, get, get, List.getElem?_set]
  by_cases heq : m = n
  · subst heq
    simp [h]
  · rw [if_neg (Ne.symm heq), if_neg heq]

/-- A change through a view is one of the table in front. -/
theorem change_eq_ok {v : View} {c : Change α} {s' : Store α} (h : s.change v c = .ok s') :
    ∃ t, s' = s.put v.front t := by
  unfold change at h
  cases hchange : (s.layered v).change c with
  | error e =>
      rw [hchange] at h
      cases h
  | ok l =>
      rw [hchange] at h
      exact ⟨l.front, (Except.ok.inj h).symm⟩

/-- Whether the tables that registries own are different ones, and the tables in front of views are
none of them. -/
structure Separate (s : Store α) (owned fronts : List Nat) : Prop where
  nodup : owned.Nodup
  apart : ∀ n ∈ fronts, n ∉ owned
  owned_lt : ∀ n ∈ owned, n < s.tables.length
  fronts_lt : ∀ n ∈ fronts, n < s.tables.length

theorem length_add (s : Store α) (t : Table α) :
    (s.add t).2.tables.length = s.tables.length + 1 := by
  simp [add]

/-- The number of a new table is none of those that were there. -/
theorem lt_add {numbers : List Nat} (h : ∀ n ∈ numbers, n < s.tables.length) (t : Table α) :
    ∀ n ∈ numbers ++ [(s.add t).1], n < (s.add t).2.tables.length := by
  intro n hn
  rw [length_add]
  rcases List.mem_append.1 hn with hn | hn
  · exact Nat.lt_succ_of_lt (h n hn)
  · obtain rfl := List.mem_singleton.1 hn
    exact Nat.lt_succ_self _

theorem ne_add {n : Nat} (h : n < s.tables.length) (t : Table α) : n ≠ (s.add t).1 :=
  Nat.ne_of_lt h

namespace Separate

/-- A table that is added for a registry is owned by no other one. -/
theorem addOwned (h : s.Separate owned fronts) (t : Table α) :
    (s.add t).2.Separate (owned ++ [(s.add t).1]) fronts := by
  constructor
  · refine List.nodup_append.2 ⟨h.nodup, List.pairwise_singleton _ _, fun n hn m hm => ?_⟩
    obtain rfl := List.mem_singleton.1 hm
    exact ne_add (h.owned_lt n hn) t
  · intro n hn hmem
    rcases List.mem_append.1 hmem with hmem | hmem
    · exact h.apart n hn hmem
    · exact ne_add (h.fronts_lt n hn) t (List.mem_singleton.1 hmem)
  · exact lt_add h.owned_lt t
  · exact fun n hn => lt_add h.fronts_lt t n (List.mem_append_left _ hn)

/-- Nor is one that is added for a view. -/
theorem addFront (h : s.Separate owned fronts) (t : Table α) :
    (s.add t).2.Separate owned (fronts ++ [(s.add t).1]) := by
  constructor
  · exact h.nodup
  · intro n hn hmem
    rcases List.mem_append.1 hn with hn | hn
    · exact h.apart n hn hmem
    · exact ne_add (h.owned_lt n hmem) t (List.mem_singleton.1 hn)
  · exact fun n hn => lt_add h.owned_lt t n (List.mem_append_left _ hn)
  · exact lt_add h.fronts_lt t

theorem put (h : s.Separate owned fronts) (n : Nat) (t : Table α) :
    (s.put n t).Separate owned fronts := by
  have hlength : (s.put n t).tables.length = s.tables.length := List.length_set
  exact ⟨h.nodup, h.apart, hlength ▸ h.owned_lt, hlength ▸ h.fronts_lt⟩

end Separate

end Store

/-! ## Registries under numbers -/

namespace Workspace

variable {w w' : Workspace} {views : List Views}

@[simp] theorem helpersOf_entriesOf (t : Table Helper) : helpersOf (entriesOf t) = t := by
  induction t with
  | nil => rfl
  | cons entry t ih => exact congrArg (entry :: ·) ih

/-- Whether the tables of a workspace are separate, given the views that are kept, and the tables of
registries have helpers only. -/
structure Sound (w : Workspace) (views : List Views) : Prop where
  helpers : w.helpers.Separate (w.registries.map (·.helpers)) (views.map (·.helpers.front))
  partials : w.partials.Separate (w.registries.map (·.partials)) (views.map (·.partials.front))
  entries : ∀ handle ∈ w.registries, ∃ t, w.helpers.get handle.helpers = entriesOf t

/-- A registry depends on its own tables only. -/
theorem registry_congr {id : Nat} (hhandle : w'.registries[id]? = w.registries[id]?)
    (hhelpers : ∀ handle ∈ w.registries,
      w'.helpers.get handle.helpers = w.helpers.get handle.helpers)
    (hpartials : ∀ handle ∈ w.registries,
      w'.partials.get handle.partials = w.partials.get handle.partials) :
    w'.registry id = w.registry id := by
  unfold registry
  rw [hhandle]
  cases h : w.registries[id]? with
  | none => rfl
  | some handle =>
      have hmem := List.mem_of_getElem? h
      simp only [hhelpers handle hmem, hpartials handle hmem]

namespace Sound

variable (h : w.Sound views)

include h

theorem helpers_lt {handle : Handle} (hhandle : handle ∈ w.registries) :
    handle.helpers < w.helpers.tables.length :=
  h.helpers.owned_lt _ (List.mem_map_of_mem hhandle)

theorem partials_lt {handle : Handle} (hhandle : handle ∈ w.registries) :
    handle.partials < w.partials.tables.length :=
  h.partials.owned_lt _ (List.mem_map_of_mem hhandle)

end Sound

/-! ### New registries -/

theorem registry_add (h : w.Sound views) (r : Registry) (id : Nat) :
    (w.add r).2.registry id = if id = w.registries.length then r else w.registry id := by
  have hregistries : (w.add r).2.registries =
      w.registries ++ [⟨w.helpers.tables.length, w.partials.tables.length⟩] := rfl
  split
  · rename_i hid
    have hhandle : (w.add r).2.registries[id]? =
        some ⟨w.helpers.tables.length, w.partials.tables.length⟩ := by
      rw [hregistries, hid, List.getElem?_concat_length]
    unfold registry
    rw [hhandle]
    show Registry.mk (helpersOf ((w.helpers.add (entriesOf r.helpers)).2.get _))
      ((w.partials.add r.partials).2.get _) = r
    rw [Store.get_add, Store.get_add, if_pos rfl, if_pos rfl, helpersOf_entriesOf]
  · rename_i hid
    refine registry_congr ?_ (fun handle hhandle => ?_) fun handle hhandle => ?_
    · rw [hregistries, List.getElem?_append]
      split
      · rfl
      · rw [List.getElem?_singleton, if_neg (by omega), List.getElem?_eq_none (by omega)]
    · exact Store.get_add_of_lt _ (h.helpers_lt hhandle)
    · exact Store.get_add_of_lt _ (h.partials_lt hhandle)

theorem Sound.add (h : w.Sound views) (r : Registry) : (w.add r).2.Sound views := by
  constructor
  · have hseparate := h.helpers.addOwned (entriesOf r.helpers)
    simpa [Workspace.add] using hseparate
  · have hseparate := h.partials.addOwned r.partials
    simpa [Workspace.add] using hseparate
  · intro handle hhandle
    rcases List.mem_append.1 hhandle with hhandle | hhandle
    · obtain ⟨t, ht⟩ := h.entries handle hhandle
      exact ⟨t, (Store.get_add_of_lt _ (h.helpers_lt hhandle)).trans ht⟩
    · obtain rfl := List.mem_singleton.1 hhandle
      exact ⟨r.helpers, (Store.get_add _ _).trans (if_pos rfl)⟩

/-! ### Registrations -/

/-- Different registries have different tables, so what is put into the table of one of them is not
found in that of another. -/
theorem get_put_owned {α : Type} {s : Store α} {handles : List Handle} {number : Handle → Nat}
    {fronts : List Nat} (h : s.Separate (handles.map number) fronts) {id target : Nat}
    {a handle : Handle} (ha : handles[id]? = some a) (hhandle : handles[target]? = some handle)
    (t : Table α) :
    (s.put (number handle) t).get (number a) = if id = target then t else s.get (number a) := by
  have hlt : id < (handles.map number).length := by
    rw [List.length_map]
    exact (List.getElem?_eq_some_iff.1 ha).1
  have hsame : number a = number handle ↔ id = target := by
    rw [← List.getElem?_inj hlt h.nodup, List.getElem?_map, List.getElem?_map, ha, hhandle]
    simp
  rw [Store.get_put (h.owned_lt _ (List.mem_map_of_mem (List.mem_of_getElem? hhandle)))]
  simp only [hsame]

section Registrations

variable (h : w.Sound views) {target : Nat} {handle : Handle}
  (hhandle : w.registries[target]? = some handle)

include h hhandle

/-- What is entered into the table of helpers of one registry is found in no other one. -/
theorem registry_putHelpers (t : Table Helper) (id : Nat) :
    Workspace.registry { w with helpers := w.helpers.put handle.helpers (entriesOf t) } id =
      if id = target then { w.registry target with helpers := t } else w.registry id := by
  split
  · rename_i hid
    subst hid
    simp only [registry, hhandle, get_put_owned h.helpers hhandle hhandle, if_pos,
      helpersOf_entriesOf]
  · rename_i hid
    unfold registry
    cases hother : w.registries[id]? with
    | none => rfl
    | some other => simp only [get_put_owned h.helpers hother hhandle, if_neg hid]

/-- What is entered into the table of partials of one registry is found in no other one. -/
theorem registry_putPartials (t : Table Value) (id : Nat) :
    Workspace.registry { w with partials := w.partials.put handle.partials t } id =
      if id = target then { w.registry target with partials := t } else w.registry id := by
  split
  · rename_i hid
    subst hid
    simp only [registry, hhandle, get_put_owned h.partials hhandle hhandle, if_pos]
  · rename_i hid
    unfold registry
    cases hother : w.registries[id]? with
    | none => rfl
    | some other => simp only [get_put_owned h.partials hother hhandle, if_neg hid]

theorem Sound.putHelpers (t : Table Helper) :
    Sound { w with helpers := w.helpers.put handle.helpers (entriesOf t) } views := by
  refine ⟨h.helpers.put _ _, h.partials, fun other hother => ?_⟩
  show ∃ t', (w.helpers.put handle.helpers (entriesOf t)).get other.helpers = entriesOf t'
  rw [Store.get_put (h.helpers_lt (List.mem_of_getElem? hhandle))]
  split
  · exact ⟨t, rfl⟩
  · exact h.entries other hother

omit hhandle in
theorem Sound.putPartials (n : Nat) (t : Table Value) :
    Sound { w with partials := w.partials.put n t } views :=
  ⟨h.helpers, h.partials.put n t, h.entries⟩

end Registrations

/-! ### Views -/

section Views

variable (h : w.Sound views) {v : Views}

include h

/-- What is changed in front of a view of helpers is found in no registry. -/
theorem get_putHelpers_front (hv : v ∈ views) (t : Table HelperEntry) {handle : Handle}
    (hhandle : handle ∈ w.registries) :
    (w.helpers.put v.helpers.front t).get handle.helpers = w.helpers.get handle.helpers := by
  have hfront : v.helpers.front ∈ views.map (·.helpers.front) := List.mem_map_of_mem hv
  rw [Store.get_put (h.helpers.fronts_lt _ hfront), if_neg]
  exact fun heq => h.helpers.apart _ hfront (heq ▸ List.mem_map_of_mem hhandle)

theorem registry_changeHelpers (hv : v ∈ views) (t : Table HelperEntry) (id : Nat) :
    Workspace.registry { w with helpers := w.helpers.put v.helpers.front t } id = w.registry id :=
  registry_congr rfl (fun _ => get_putHelpers_front h hv t) fun _ _ => rfl

theorem Sound.changeHelpers (hv : v ∈ views) (t : Table HelperEntry) :
    Sound { w with helpers := w.helpers.put v.helpers.front t } views := by
  refine ⟨h.helpers.put _ _, h.partials, fun handle hhandle => ?_⟩
  obtain ⟨t', ht'⟩ := h.entries handle hhandle
  exact ⟨t', (get_putHelpers_front h hv t hhandle).trans ht'⟩

/-- What is changed in front of a view of partials is found in no registry. -/
theorem registry_changePartials (hv : v ∈ views) (t : Table Value) (id : Nat) :
    Workspace.registry { w with partials := w.partials.put v.partials.front t } id =
      w.registry id := by
  have hfront : v.partials.front ∈ views.map (·.partials.front) := List.mem_map_of_mem hv
  refine registry_congr rfl (fun _ _ => rfl) fun handle hhandle => ?_
  show (w.partials.put v.partials.front t).get handle.partials = _
  rw [Store.get_put (h.partials.fronts_lt _ hfront), if_neg]
  exact fun heq => h.partials.apart _ hfront (heq ▸ List.mem_map_of_mem hhandle)

variable (id : Nat) (helpers : Table HelperEntry) (partials : Table Value)

theorem registry_view (other : Nat) :
    (w.view id helpers partials).2.registry other = w.registry other :=
  registry_congr rfl (fun _ hhandle => Store.get_add_of_lt _ (h.helpers_lt hhandle))
    fun _ hhandle => Store.get_add_of_lt _ (h.partials_lt hhandle)

theorem Sound.view :
    (w.view id helpers partials).2.Sound (views ++ [(w.view id helpers partials).1]) := by
  refine ⟨?_, ?_, fun handle hhandle => ?_⟩
  · rw [List.map_append]
    exact h.helpers.addFront helpers
  · rw [List.map_append]
    exact h.partials.addFront partials
  · obtain ⟨t, ht⟩ := h.entries handle hhandle
    exact ⟨t, (Store.get_add_of_lt _ (h.helpers_lt hhandle)).trans ht⟩

/-- A view of a registry shows the given tables, and the registry behind them. -/
theorem scope_view :
    (w.view id helpers partials).2.scope (w.view id helpers partials).1 =
      (w.registry id).scope helpers partials := by
  have hhelpers : (w.helpers.add helpers).2.get w.helpers.tables.length = helpers :=
    (Store.get_add _ _).trans (if_pos rfl)
  have hpartials : (w.partials.add partials).2.get w.partials.tables.length = partials :=
    (Store.get_add _ _).trans (if_pos rfl)
  show Scope.mk
      ⟨(w.helpers.add helpers).2.get w.helpers.tables.length,
        ((w.registries[id]?.map (·.helpers)).map (w.helpers.add helpers).2.get).getD []⟩
      ⟨(w.partials.add partials).2.get w.partials.tables.length,
        ((w.registries[id]?.map (·.partials)).map (w.partials.add partials).2.get).getD []⟩ =
    Scope.mk ⟨helpers, entriesOf (w.registry id).helpers⟩ ⟨partials, (w.registry id).partials⟩
  rw [hhelpers, hpartials, registry]
  cases hhandle : w.registries[id]? with
  | none => rfl
  | some handle =>
      have hmem := List.mem_of_getElem? hhandle
      obtain ⟨t, ht⟩ := h.entries handle hmem
      simp only [Option.map_some, Option.getD_some, Store.get_add_of_lt _ (h.helpers_lt hmem),
        Store.get_add_of_lt _ (h.partials_lt hmem), ht, helpersOf_entriesOf]

end Views

end Workspace

end Templating
