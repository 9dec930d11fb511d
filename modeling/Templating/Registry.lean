import Templating.Helper.Builtin
import Templating.Table

/-!
# Registries

A registry holds helpers and partials under names. A template is rendered in a scope: the tables of
a registry behind tables given for the occasion, where an entry of no value hides the registry's
entry. The entries of a given table may be any values; whether one serves shows when it is used.
-/

namespace Templating

/-- The entry of a table of helpers that is given for the occasion. -/
inductive HelperEntry where
  | helper (h : Helper)
  | value (v : Value)

/-- The helper that an entry stands for. -/
def HelperEntry.toHelper : HelperEntry → Except Failure Helper
  | helper h => .ok h
  | value v => Helper.ofValue v

/-- The tables in which the names of a template are looked up. -/
structure Scope where
  helpers : Layered HelperEntry
  partials : Layered Value

namespace Scope

/-- The helper under a name, if there is one. An entry that cannot be called is an error. -/
def helper? (s : Scope) (name : String) : Except Failure (Option Helper) :=
  match s.helpers.get? name with
  | none | some (.value .none) => .ok none
  | some entry => entry.toHelper.map some

/-- The helper for blocks without one of their own. -/
def missingHelper (s : Scope) : Except Failure Helper :=
  (s.helper? Helper.missingName).map (·.getD Helper.builtinMissing)

/-- The source of the partial under a name. It should be a text, which shows when it is used. -/
def source? (s : Scope) (name : String) : Option Value :=
  match s.partials.get? name with
  | some .none => none
  | found => found

end Scope

/-- Helpers and partials under names. -/
structure Registry where
  helpers : Table Helper := []
  partials : Table Value := []

namespace Registry

/-- A new registry, with the builtin helpers or without. -/
def make (builtins : Bool) : Run Registry := do
  let helpers := if builtins then Helper.builtins else []
  Run.report (.registryMade helpers.length)
  return { helpers := helpers }

/-- Registers a helper, in the place of an earlier one with its name. -/
def registerHelper (r : Registry) (name : String) (h : Helper) : Run Registry := do
  if (r.helpers.get? name).isSome then Run.report (.helperReplaced name)
  Run.report (.helperRegistered name)
  return { r with helpers := r.helpers.set name h }

/-- Registers the text of a partial, in the place of an earlier one with its name. -/
def registerPartial (r : Registry) (name source : String) : Run Registry := do
  if (r.partials.get? name).isSome then Run.report (.partialReplaced name)
  Run.report (.partialRegistered name)
  return { r with partials := r.partials.set name (.text source) }

/-- Another registry with the same entries. It begins as an empty one. -/
def copy (r : Registry) : Run Registry := do
  let _ ← make false
  return r

/-- The scope of the registry behind the given tables. -/
def scope (r : Registry) (helpers : Table HelperEntry) (partials : Table Value) : Scope where
  helpers := ⟨helpers, r.helpers.map fun (name, h) => (name, .helper h)⟩
  partials := ⟨partials, r.partials⟩

end Registry

end Templating
