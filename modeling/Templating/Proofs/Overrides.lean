import Mathlib.Data.List.Nodup
import Templating.Proofs.Output
import Templating.Workspace

/-!
# Tables given for the occasion

Rendering with tables in front of a registry is rendering with a registry into which the tables
have been entered (`Registry.merge`): all their names are taken out, and the entries that are
something are registered. An entry of no value hides what the registry has under its name. All that
rendering knows of its scope is what names find in it (`Scope.Alike`), so it is enough to compare
what each name finds.
-/

namespace Templating

/-! ## Names in tables -/

namespace Table

variable {α β : Type}

/-- Whether no name stands twice in a table. -/
def Distinct (t : Table α) : Prop :=
  (t.map (·.1)).Nodup

/-- Takes names out. -/
def eraseAll (t : Table α) (names : List String) : Table α :=
  names.foldl erase t

/-- Sets the values of entries that have one. -/
def fill (t : Table α) (entries : Table (Option α)) : Table α :=
  entries.foldl (fun t (name, value) => (value.map (t.set name)).getD t) t

theorem get?_eraseAll (t : Table α) (names : List String) (name : String) :
    (t.eraseAll names).get? name = if name ∈ names then none else t.get? name := by
  induction names generalizing t with
  | nil => simp [eraseAll]
  | cons n names ih =>
      have hstep : t.eraseAll (n :: names) = (t.erase n).eraseAll names := rfl
      rw [hstep, ih, get?_erase]
      by_cases hname : name = n
      · simp [hname]
      · simp [hname]

theorem get?_map (g : α → β) (t : Table α) (name : String) :
    get? (t.map fun (n, v) => (n, g v)) name = (t.get? name).map g := by
  induction t with
  | nil => rfl
  | cons entry t ih =>
      obtain ⟨n, v⟩ := entry
      rw [List.map_cons, get?_cons, get?_cons, ih]
      split
      · rfl
      · rfl

theorem get?_eq_none_iff (t : Table α) (name : String) :
    t.get? name = none ↔ name ∉ t.map (·.1) := by
  simp only [get?, List.lookup_eq_none_iff, List.mem_map, not_exists, not_and, bne_iff_ne]
  constructor
  · intro h entry hentry hname
    exact h entry hentry hname.symm
  · intro h entry hentry hname
    exact h entry hentry hname.symm

theorem mem_of_get? {t : Table α} {name : String} {v : α} (h : t.get? name = some v) :
    (name, v) ∈ t := by
  obtain ⟨before, after, rfl, -⟩ := List.lookup_eq_some_iff.1 h
  simp

/-- Entries with distinct names do not get in each other's way. -/
theorem get?_fill (t : Table α) {entries : Table (Option α)} (h : Distinct entries)
    (name : String) :
    (t.fill entries).get? name = ((entries.get? name).getD none).or (t.get? name) := by
  induction entries generalizing t with
  | nil => rfl
  | cons entry entries ih =>
      obtain ⟨n, value⟩ := entry
      have hstep : t.fill ((n, value) :: entries) = ((value.map (t.set n)).getD t).fill entries :=
        rfl
      obtain ⟨hfresh, hrest⟩ := List.nodup_cons.1 h
      rw [hstep, ih _ hrest, get?_cons]
      by_cases hname : name = n
      · have hnone : get? entries name = none := by
          rw [get?_eq_none_iff, hname]
          exact hfresh
        rw [hnone, if_pos hname]
        cases value with
        | none => rfl
        | some v => simp [get?_set, hname]
      · rw [if_neg hname]
        cases value with
        | none => rfl
        | some v => simp [get?_set, hname]

/-- A table into which entries have been entered finds what they stand for, and what it found before
under all other names. -/
theorem get?_fill_eraseAll (t : Table α) (g : β → Option α) {entries : Table β}
    (h : Distinct entries) (name : String) :
    ((t.eraseAll (entries.map (·.1))).fill (entries.map fun (n, v) => (n, g v))).get? name =
      ((entries.get? name).map g).getD (t.get? name) := by
  have hdistinct : Distinct (entries.map fun (n, v) => (n, g v)) := by
    simpa [Distinct, List.map_map, Function.comp_def] using h
  rw [get?_fill _ hdistinct, get?_eraseAll, get?_map]
  cases hentry : entries.get? name with
  | none =>
      rw [if_neg ((get?_eq_none_iff entries name).1 hentry)]
      rfl
  | some v =>
      have hmem : name ∈ entries.map (·.1) := List.mem_map_of_mem (mem_of_get? hentry)
      rw [if_pos hmem, Option.or_none]
      rfl

end Table

/-! ## Registering tables -/

/-- The helper that an entry registers. An entry of no value registers none. -/
def HelperEntry.registered? (entry : HelperEntry) : Option Helper :=
  entry.toHelper.toOption

/-- Whether an entry is a helper, a value that can be called, or no value. -/
def HelperEntry.IsFit : HelperEntry → Prop
  | helper _ => True
  | value v => v = .none ∨ v.isCallable = true

/-- The text that an entry registers as a partial. An entry of no value registers none. -/
def Value.source? : Value → Option String
  | .text source => some source
  | _ => Option.none

/-- Whether an entry of a table of partials is a text or no value. -/
def Value.IsSource (v : Value) : Prop :=
  v = .none ∨ ∃ source, v = .text source

namespace Registry

/-- Registers the entries of a table of helpers in order. -/
def registerHelpers (r : Registry) (entries : Table HelperEntry) : Run Registry :=
  entries.foldlM (fun r (name, entry) =>
    match entry.registered? with
    | none => pure r
    | some h => r.registerHelper name h) r

/-- Registers the entries of a table of partials in order. -/
def registerPartials (r : Registry) (entries : Table Value) : Run Registry :=
  entries.foldlM (fun r (name, entry) =>
    match entry.source? with
    | none => pure r
    | some source => r.registerPartial name source) r

/-- A copy of a registry into which tables have been entered: their names are taken out first, and
then their entries are registered. -/
def merge (r : Registry) (helpers : Table HelperEntry) (partials : Table Value) : Run Registry := do
  let copied ← r.copy
  let cleared : Registry :=
    { helpers := copied.helpers.eraseAll (helpers.map (·.1))
      partials := copied.partials.eraseAll (partials.map (·.1)) }
  let served ← cleared.registerHelpers helpers
  served.registerPartials partials

theorem outcome_copy (r : Registry) : r.copy.outcome = .ok r := rfl

theorem outcome_registerHelper (r : Registry) (name : String) (h : Helper) :
    (r.registerHelper name h).outcome = .ok { r with helpers := r.helpers.set name h } := by
  unfold registerHelper
  by_cases hreplaced : (r.helpers.get? name).isSome = true
  · rw [if_pos hreplaced]
    rfl
  · rw [if_neg hreplaced]
    rfl

theorem outcome_registerPartial (r : Registry) (name source : String) :
    (r.registerPartial name source).outcome =
      .ok { r with partials := r.partials.set name (.text source) } := by
  unfold registerPartial
  by_cases hreplaced : (r.partials.get? name).isSome = true
  · rw [if_pos hreplaced]
    rfl
  · rw [if_neg hreplaced]
    rfl

theorem outcome_registerHelpers (r : Registry) (entries : Table HelperEntry) :
    (r.registerHelpers entries).outcome = .ok { r with
      helpers := r.helpers.fill (entries.map fun (name, entry) => (name, entry.registered?)) } := by
  induction entries generalizing r with
  | nil => rfl
  | cons first entries ih =>
      obtain ⟨name, entry⟩ := first
      have hstep : (r.registerHelpers ((name, entry) :: entries)).outcome =
          (match entry.registered? with
            | none => pure r
            | some h => r.registerHelper name h).outcome.bind fun r =>
              (r.registerHelpers entries).outcome := Run.outcome_bind _ _
      rw [hstep]
      cases hentry : entry.registered? with
      | none => simp [Except.bind, ih, Table.fill, hentry]
      | some h => simp [Except.bind, outcome_registerHelper, ih, Table.fill, hentry]

theorem outcome_registerPartials (r : Registry) (entries : Table Value) :
    (r.registerPartials entries).outcome = .ok { r with
      partials := r.partials.fill
        (entries.map fun (name, entry) => (name, entry.source?.map .text)) } := by
  induction entries generalizing r with
  | nil => rfl
  | cons first entries ih =>
      obtain ⟨name, entry⟩ := first
      have hstep : (r.registerPartials ((name, entry) :: entries)).outcome =
          (match entry.source? with
            | none => pure r
            | some source => r.registerPartial name source).outcome.bind fun r =>
              (r.registerPartials entries).outcome := Run.outcome_bind _ _
      rw [hstep]
      cases hentry : entry.source? with
      | none => simp [Except.bind, ih, Table.fill, hentry]
      | some source => simp [Except.bind, outcome_registerPartial, ih, Table.fill, hentry]

/-- The entries of the merged registry. Copying, clearing and registering always succeed. -/
theorem outcome_merge (r : Registry) (helpers : Table HelperEntry) (partials : Table Value) :
    (r.merge helpers partials).outcome = .ok {
      helpers := (r.helpers.eraseAll (helpers.map (·.1))).fill
        (helpers.map fun (name, entry) => (name, entry.registered?))
      partials := (r.partials.eraseAll (partials.map (·.1))).fill
        (partials.map fun (name, entry) => (name, entry.source?.map .text)) } := by
  simp only [merge, Run.outcome_bind, outcome_copy, Except.bind, outcome_registerHelpers,
    outcome_registerPartials]

end Registry

/-! ## What names find -/

theorem HelperEntry.toHelper_eq_ok {entry : HelperEntry} (hfit : entry.IsFit)
    (hne : entry ≠ .value .none) : ∃ h, entry.toHelper = .ok h := by
  cases entry with
  | helper h => exact ⟨h, rfl⟩
  | value v =>
      rcases hfit with rfl | hcallable
      · exact absurd rfl hne
      · exact ⟨_, if_pos hcallable⟩

/-- A name with a fit entry finds what the entry registers. -/
theorem Scope.helper?_eq_registered {s : Scope} {name : String} {entry : HelperEntry}
    (hentry : s.helpers.get? name = some entry) (hfit : entry.IsFit) :
    s.helper? name = .ok entry.registered? := by
  unfold Scope.helper?
  rw [hentry]
  split
  · contradiction
  · rename_i hnone
    cases hnone
    rfl
  · rename_i found hne hfound
    obtain rfl : entry = found := Option.some.inj hfound
    obtain ⟨h, hserves⟩ := HelperEntry.toHelper_eq_ok hfit fun hnone => hne (by rw [hnone])
    rw [HelperEntry.registered?, hserves]
    rfl

theorem Scope.helper?_eq_none {s : Scope} {name : String} (h : s.helpers.get? name = none) :
    s.helper? name = .ok none := by
  rw [Scope.helper?, h]

namespace Registry

variable {helpers : Table HelperEntry} {partials : Table Value}

theorem get?_helpers_scope (r : Registry) (helpers : Table HelperEntry) (partials : Table Value)
    (name : String) : (r.scope helpers partials).helpers.get? name =
      (helpers.get? name).or ((r.helpers.get? name).map .helper) := by
  rw [← Table.get?_map]
  rfl

/-- A name finds what its entry for the occasion registers, or else what is registered. -/
theorem helper?_scope (r : Registry) (partials : Table Value)
    (hfit : ∀ entry ∈ helpers, entry.2.IsFit) (name : String) :
    (r.scope helpers partials).helper? name =
      .ok (((helpers.get? name).map HelperEntry.registered?).getD (r.helpers.get? name)) := by
  have hget := r.get?_helpers_scope helpers partials name
  cases hentry : helpers.get? name with
  | some entry =>
      rw [hentry, Option.some_or] at hget
      exact Scope.helper?_eq_registered hget (hfit _ (Table.mem_of_get? hentry))
  | none =>
      rw [hentry, Option.none_or] at hget
      cases hhelper : r.helpers.get? name with
      | none =>
          rw [hhelper] at hget
          exact Scope.helper?_eq_none hget
      | some h =>
          rw [hhelper] at hget
          exact Scope.helper?_eq_registered hget trivial

theorem source?_scope (r : Registry) (helpers : Table HelperEntry) (partials : Table Value)
    (name : String) : (r.scope helpers partials).source? name =
      match (partials.get? name).or (r.partials.get? name) with
      | some .none => none
      | found => found :=
  rfl

/-- What is registered in a merged registry. -/
theorem exists_merge (r : Registry) (hdistinct : Table.Distinct helpers)
    (hdistinct' : Table.Distinct partials) :
    ∃ merged, (r.merge helpers partials).outcome = .ok merged ∧
      (∀ name, merged.helpers.get? name =
        ((helpers.get? name).map HelperEntry.registered?).getD (r.helpers.get? name)) ∧
      ∀ name, merged.partials.get? name =
        ((partials.get? name).map fun v => v.source?.map .text).getD (r.partials.get? name) :=
  ⟨_, r.outcome_merge helpers partials, Table.get?_fill_eraseAll _ _ hdistinct,
    Table.get?_fill_eraseAll _ (fun v => v.source?.map Value.text) hdistinct'⟩

/-- A registry finds without tables what another one finds behind tables if this is what is
registered in it. -/
theorem alike_of_get? {r merged : Registry} (hfit : ∀ entry ∈ helpers, entry.2.IsFit)
    (hsource : ∀ entry ∈ partials, entry.2.IsSource)
    (hhelpers : ∀ name, merged.helpers.get? name =
      ((helpers.get? name).map HelperEntry.registered?).getD (r.helpers.get? name))
    (hpartials : ∀ name, merged.partials.get? name =
      ((partials.get? name).map fun v => v.source?.map .text).getD (r.partials.get? name)) :
    (r.scope helpers partials).Alike (merged.scope [] []) := by
  constructor
  · intro name
    rw [r.helper?_scope partials hfit, helper?_scope _ _ (by simp), ← hhelpers]
    rfl
  · intro name
    rw [source?_scope, source?_scope, Table.get?_nil, Option.none_or, hpartials]
    cases hentry : partials.get? name with
    | none => rfl
    | some v =>
        rcases hsource _ (Table.mem_of_get? hentry) with rfl | ⟨source, rfl⟩
        · rfl
        · rfl

end Registry

/-! ## Rendering with tables for the occasion -/

/-- Scopes that are alike render alike, within every limit. -/
theorem Node.renderWithin_eq_of_alike {s s' : Scope} (hs : s.Alike s') (limit : Nat) (n : Node)
    (f : Frame) : n.renderWithin s limit f = n.renderWithin s' limit f := by
  induction limit generalizing n f with
  | zero => rfl
  | succ limit ih =>
      rw [renderWithin, renderWithin, visit_congr Run.compositional_eq hs ih n f]

/-- **Tables given for the occasion** do what they do when they have been entered into a copy of the
registry. What they hide is not registered there. -/
theorem renderTemplate_merge (r : Registry) {helpers : Table HelperEntry} {partials : Table Value}
    (hfit : ∀ entry ∈ helpers, entry.2.IsFit) (hsource : ∀ entry ∈ partials, entry.2.IsSource)
    (hdistinct : Table.Distinct helpers) (hdistinct' : Table.Distinct partials) :
    ∃ merged, (r.merge helpers partials).outcome = .ok merged ∧
      (∀ (template : String) (data : Value),
        renderTemplate template r data helpers partials =
          renderTemplate template merged data [] []) ∧
      (∀ name, helpers.get? name = some (.value .none) → merged.helpers.get? name = none) ∧
      ∀ name, partials.get? name = some .none → merged.partials.get? name = none := by
  obtain ⟨merged, hmerged, hhelpers, hpartials⟩ := r.exists_merge hdistinct hdistinct'
  have halike := Registry.alike_of_get? hfit hsource hhelpers hpartials
  refine ⟨merged, hmerged, ?_, ?_, ?_⟩
  · intro template data
    refine bind_congr fun program => ?_
    exact program.renderWithin_eq_of_alike halike nestingLimit _
  · intro name hhidden
    rw [hhelpers, hhidden]
    rfl
  · intro name hhidden
    rw [hpartials, hhidden]
    rfl

/-- A registry with the builtin helpers and one partial. -/
def signsRegistry : Registry where
  helpers := Helper.builtins
  partials := [("sign", .text "open")]

/-- Helpers for the occasion: two names are hidden, one is new. -/
def signsHelpers : Table HelperEntry :=
  [(Helper.missingName, .value .none), ("each", .value .none),
    ("shout", .value (.function (.text "!")))]

/-- Partials for the occasion: one is hidden, one is new. -/
def signsPartials : Table Value :=
  [("sign", .none), ("door", .text "closed\x7b\x7bshout\x7d\x7d")]

theorem renderTemplate_merge_signs :
    (∀ entry ∈ signsHelpers, entry.2.IsFit) ∧ (∀ entry ∈ signsPartials, entry.2.IsSource) ∧
      Table.Distinct signsHelpers ∧ Table.Distinct signsPartials ∧
        ∃ merged, (signsRegistry.merge signsHelpers signsPartials).outcome = .ok merged ∧
          (∀ (template : String) (data : Value),
            renderTemplate template signsRegistry data signsHelpers signsPartials =
              renderTemplate template merged data [] []) ∧
          (∀ name, signsHelpers.get? name = some (.value .none) →
            merged.helpers.get? name = none) ∧
          ∀ name, signsPartials.get? name = some .none → merged.partials.get? name = none := by
  have hhelpers : ∀ entry ∈ signsHelpers, entry.2.IsFit := by
    simp [signsHelpers, HelperEntry.IsFit, Value.isCallable]
  have hpartials : ∀ entry ∈ signsPartials, entry.2.IsSource := by
    simp [signsPartials, Value.IsSource]
  have hdistinct : Table.Distinct signsHelpers := by
    simp [signsHelpers, Table.Distinct, Helper.missingName]
  have hdistinct' : Table.Distinct signsPartials := by
    simp [signsPartials, Table.Distinct]
  exact ⟨hhelpers, hpartials, hdistinct, hdistinct',
    renderTemplate_merge signsRegistry hhelpers hpartials hdistinct hdistinct'⟩

end Templating
