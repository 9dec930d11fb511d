import Templating.Render

/-!
# Workspaces

Tables that change over time are kept in a store, each under a number of its own, and everything
that uses a table knows its number: a registry that of its two tables, a view that of a table of a
registry and that of a table in front of it, where all changes through the view are made. A compiled
template remembers the number of its registry, so it sees what is registered when it is called.
Number 0 is the default registry.
-/

namespace Templating

/-- A parsed template that is bound to a registry. -/
structure Compiled where
  program : Node
  registry : Nat

/-! ### Tables under numbers -/

/-- Tables under numbers. -/
structure Store (α : Type) where
  tables : List (Table α) := []

/-- The numbers of the tables of a registry. -/
structure Handle where
  helpers : Nat
  partials : Nat
deriving DecidableEq, Repr

/-- The numbers of a table in front and, if there is one, of the table behind it. -/
structure View where
  front : Nat
  back : Option Nat
deriving DecidableEq, Repr

/-- A change that is made through a view. -/
inductive Change (α : Type) where
  | set (name : String) (value : α)
  | erase (name : String)

/-- The layered table after a change. Only what is in front can be taken out. -/
def Layered.change {α : Type} (l : Layered α) : Change α → Except Failure (Layered α)
  | .set name value => .ok (l.set name value)
  | .erase name =>
    match l.erase? name with
    | some smaller => .ok smaller
    | none =>
      let quoted := Text.quotedString name
      .error (.missingKey s!"Key not found in the first mapping: {quoted}")

namespace Store

variable {α : Type} (s : Store α)

/-- The table under a number; an unknown number has an empty one. -/
def get (n : Nat) : Table α :=
  s.tables[n]?.getD []

/-- Keeps a table under the next number. -/
def add (t : Table α) : Nat × Store α :=
  (s.tables.length, ⟨s.tables ++ [t]⟩)

/-- Puts a table in the place of the one under a number. -/
def put (n : Nat) (t : Table α) : Store α :=
  ⟨s.tables.set n t⟩

/-- Makes a view of a table behind a new one with the given entries. -/
def view (given : Table α) (back : Option Nat) : View × Store α :=
  let (front, s) := s.add given
  (⟨front, back⟩, s)

/-- The layered table that a view shows now. -/
def layered (v : View) : Layered α :=
  ⟨s.get v.front, (v.back.map s.get).getD []⟩

/-- Changes the table in front of a view. -/
def change (v : View) (c : Change α) : Except Failure (Store α) := do
  let l ← (s.layered v).change c
  return s.put v.front l.front

end Store

/-! ### Registries under numbers -/

/-- The tables of helpers and of partials, and the registries under their numbers. -/
structure Workspace where
  helpers : Store HelperEntry
  partials : Store Value
  registries : List Handle

/-- Views of both tables of a registry. -/
structure Views where
  helpers : View
  partials : View

namespace Workspace

variable (w : Workspace)

/-- The number of the default registry. -/
def defaultId : Nat := 0

/-- The entries of helpers in a table. -/
def entriesOf (helpers : Table Helper) : Table HelperEntry :=
  helpers.map fun (name, h) => (name, .helper h)

/-- The helpers among the entries of a table. -/
def helpersOf (entries : Table HelperEntry) : Table Helper :=
  entries.filterMap fun (name, entry) =>
    match entry with
    | .helper h => some (name, h)
    | .value _ => none

/-- The registry under a number as it is now; an unknown number has an empty one. -/
def registry (id : Nat) : Registry :=
  match w.registries[id]? with
  | some r =>
    { helpers := helpersOf (w.helpers.get r.helpers), partials := w.partials.get r.partials }
  | none => {}

/-- Adds a registry with tables of its own under the next number. -/
def add (r : Registry) : Nat × Workspace :=
  let (helpers, helperStore) := w.helpers.add (entriesOf r.helpers)
  let (partials, partialStore) := w.partials.add r.partials
  (w.registries.length, ⟨helperStore, partialStore, w.registries ++ [⟨helpers, partials⟩]⟩)

/-- A workspace with only the default registry, which has the builtin helpers. -/
def initial : Workspace :=
  (add ⟨{}, {}, []⟩ { helpers := Helper.builtins }).2

/-- Makes a new registry. -/
def make (builtins : Bool) : Run (Nat × Workspace) := do
  return w.add (← Registry.make builtins)

/-- Makes a registry with the entries that another one has now. -/
def copy (id : Nat) : Run (Nat × Workspace) := do
  return w.add (← (w.registry id).copy)

/-- Registers a helper in the table of one registry. -/
def registerHelper (id : Nat) (name : String) (h : Helper) : Run Workspace := do
  let r ← (w.registry id).registerHelper name h
  match w.registries[id]? with
  | some handle => return { w with helpers := w.helpers.put handle.helpers (entriesOf r.helpers) }
  | none => return w

/-- Registers a partial in the table of one registry. -/
def registerPartial (id : Nat) (name source : String) : Run Workspace := do
  let r ← (w.registry id).registerPartial name source
  match w.registries[id]? with
  | some handle => return { w with partials := w.partials.put handle.partials r.partials }
  | none => return w

/-- Makes views of the tables of a registry behind the given tables. -/
def view (id : Nat) (helpers : Table HelperEntry) (partials : Table Value) : Views × Workspace :=
  let handle := w.registries[id]?
  let (helperView, helperStore) := w.helpers.view helpers (handle.map (·.helpers))
  let (partialView, partialStore) := w.partials.view partials (handle.map (·.partials))
  (⟨helperView, partialView⟩, { w with helpers := helperStore, partials := partialStore })

/-- The scope that views show now. -/
def scope (v : Views) : Scope where
  helpers := w.helpers.layered v.helpers
  partials := w.partials.layered v.partials

/-- Calls a compiled template with data and tables for the occasion. It sees its registry through
views that are given up with the call. -/
def call (c : Compiled) (data : Value) (helpers : Table HelperEntry) (partials : Table Value) :
    Run String :=
  let (views, w) := w.view c.registry helpers partials
  c.program.render (w.scope views) { data := data }

end Workspace

/-- Parses a template and binds it to a registry. -/
def Compiled.ofTemplate (source : String) (registry : Nat := Workspace.defaultId) :
    Run Compiled := do
  return { program := ← parseTemplate source, registry := registry }

/-- Parses a template and renders it at once. -/
def renderTemplate (source : String) (r : Registry) (data : Value) (helpers : Table HelperEntry)
    (partials : Table Value) : Run String := do
  let program ← parseTemplate source
  program.render (r.scope helpers partials) { data := data }

end Templating
