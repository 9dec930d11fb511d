import Mathlib.Data.List.Perm.Subperm
import Mathlib.Logic.Relation
import Templating.Proofs.Limit
import Templating.Proofs.Mentions

/-!
# Partials that do not include each other in a cycle

Only partials make a rendering go on in a tree that is no part of the one before. Where none
includes itself, be it through others, the partials inside which a tree is rendered are all
different (`Scope.Stack`), so they are nested no deeper than there are names in the table: whatever
would render deeper ones is never asked (`Node.renderOver_eq_of_stack`), and no rendering is given
up (`Node.ends_of_acyclic`). How often a helper has a body rendered does not matter, as a script
ends after every row of outcomes.
-/

namespace Templating

open Relation (TransGen)

namespace Scope

/-- Whether the text of a partial includes another one, anywhere in it. -/
def Includes (s : Scope) (name other : String) : Prop :=
  ∃ source tree, s.source? name = some (.text source) ∧ Node.ofTemplate source = .ok tree ∧
    other ∈ tree.inclusions

/-- Whether no partial includes itself, be it through others. -/
def Acyclic (s : Scope) : Prop :=
  ∀ name, ¬ TransGen s.Includes name name

/-- What comes from including has a smaller rank, so nothing comes from itself. -/
theorem acyclic_of_rank {s : Scope} (rank : String → Nat)
    (h : ∀ name other, s.Includes name other → rank other < rank name) : s.Acyclic := by
  have hless : ∀ name other, TransGen s.Includes name other → rank other < rank name := by
    intro name other hpath
    induction hpath with
    | single hstep => exact h _ _ hstep
    | tail _ hstep ih => exact (h _ _ hstep).trans ih
  intro name hcycle
  exact lt_irrefl _ (hless name name hcycle)

theorem mem_names_of_source? {s : Scope} {name : String} {v : Value}
    (h : s.source? name = some v) : name ∈ s.partials.names := by
  have hget : ∃ w, s.partials.get? name = some w := by
    unfold source? at h
    split at h
    · cases h
    · exact ⟨v, h⟩
  obtain ⟨w, hw⟩ := hget
  rw [Layered.names, List.mem_eraseDups, List.mem_map]
  rw [Layered.get?, ← Table.get?_append] at hw
  exact ⟨(name, w), Table.mem_of_get? hw, rfl⟩

/-- The names of the partials inside which a tree is rendered, the innermost first: they are in the
table, and all that the tree includes comes from each of them. -/
structure Stack (s : Scope) (n : Node) (stack : List String) : Prop where
  nodup : stack.Nodup
  subset : stack ⊆ s.partials.names
  leads : ∀ outer ∈ stack, ∀ name ∈ n.inclusions, TransGen s.Includes outer name

namespace Stack

variable {s : Scope} {n tree : Node} {stack : List String} {name : String}

theorem nil (s : Scope) (n : Node) : Stack s n [] where
  nodup := List.nodup_nil
  subset := List.nil_subset _
  leads := by simp

/-- The tree of a partial is rendered inside it. Its name is a new one, or it would come from
itself. -/
theorem push (hs : s.Acyclic) (h : Stack s n stack) (hname : name ∈ n.inclusions)
    (htree : (s.parsePartial name).outcome = .ok tree) : Stack s tree (name :: stack) := by
  obtain ⟨entry, hentry, htext⟩ := outcome_parsePartial_eq_ok htree
  have hincludes : ∀ other ∈ tree.inclusions, s.Includes name other := by
    intro other hother
    obtain ⟨source, rfl, hparse⟩ | rfl := htext
    · exact ⟨source, tree, hentry, hparse, hother⟩
    · cases hother
  constructor
  · refine List.nodup_cons.2 ⟨fun hmem => ?_, h.nodup⟩
    exact hs name (h.leads name hmem name hname)
  · exact List.cons_subset.2 ⟨mem_names_of_source? hentry, h.subset⟩
  · intro outer houter other hother
    rcases List.mem_cons.1 houter with rfl | houter
    · exact .single (hincludes other hother)
    · exact (h.leads outer houter name hname).tail (hincludes other hother)

theorem length_le (h : Stack s n stack) : stack.length ≤ s.partials.names.length :=
  (h.nodup.subperm h.subset).length_le

end Stack

end Scope

namespace Node

/-- Renders a tree with partials nested at most `depth` deep. Those that are nested deeper are left
to `deeper`. -/
def renderOver (s : Scope) (deeper : Node → Frame → Run String) :
    (depth : Nat) → Node → Frame → Run String
  | 0, n, f => (·.text) <$> n.visit s deeper f
  | depth + 1, n, f => (·.text) <$> n.visit s (renderOver s deeper depth) f

variable {s : Scope}

/-- The limit of nesting is what happens to the partials that are nested too deeply. -/
theorem renderWithin_eq_renderOver (limit depth : Nat) (n : Node) (f : Frame) :
    n.renderWithin s (limit + depth + 1) f =
      renderOver s (renderWithin s limit) depth n f := by
  induction depth generalizing n f with
  | zero => rfl
  | succ depth ih =>
      have hincluded : renderWithin s (limit + depth + 1) =
          renderOver s (renderWithin s limit) depth := funext fun n => funext fun f => ih n f
      rw [← Nat.add_assoc, renderWithin, hincluded, renderOver]

/-- Only the partials that a tree includes decide how it is rendered. -/
theorem visit_eq_of_included {included included' : Node → Frame → Run String} {n : Node}
    (h : ∀ name ∈ n.inclusions, ∀ tree, (s.parsePartial name).outcome = .ok tree →
      ∀ f, included tree f = included' tree f) (f : Frame) :
    visit s included n f = visit s included' n f :=
  visit_eq_of_sameFor n f ⟨fun _ _ => rfl, fun _ _ => rfl, h, rfl⟩

/-- Partials are nested no deeper than there are names that do not stand around the tree yet. -/
theorem renderOver_eq_of_stack (hs : s.Acyclic) {deeper deeper' : Node → Frame → Run String}
    {depth : Nat} {n : Node} {stack : List String} (h : s.Stack n stack)
    (hdepth : s.partials.names.length ≤ stack.length + depth) (f : Frame) :
    renderOver s deeper depth n f = renderOver s deeper' depth n f := by
  -- By the depth that is left, while the stack grows.
  induction depth generalizing n stack f with
  | zero =>
      rw [renderOver, renderOver, visit_eq_of_included]
      intro name hname tree htree
      have := (h.push hs hname htree).length_le
      rw [List.length_cons] at this
      omega
  | succ depth ih =>
      rw [renderOver, renderOver, visit_eq_of_included]
      intro name hname tree htree f
      refine ih (h.push hs hname htree) ?_ f
      rw [List.length_cons]
      omega

/-- A rendering settles if that of deeper partials does. -/
theorem settles_renderOver (hs : s.Settles) {deeper : Node → Frame → Run String}
    (hdeeper : ∀ n f, (deeper n f).Settles) (depth : Nat) (n : Node) (f : Frame) :
    (renderOver s deeper depth n f).Settles := by
  induction depth generalizing n f with
  | zero => exact (settles_visit hs hdeeper n f).map _
  | succ depth ih => exact (settles_visit hs ih n f).map _

/-- **A rendering ends if partials do not include each other in a cycle.** It is one and the same
run within every limit that exceeds the number of names in the table of partials, and partials are
never nested deeper than that number, for it makes no difference how deeper ones would be rendered.
If no helper gives up by itself, the run comes to an output or to another failure. -/
theorem ends_of_acyclic (h : s.Acyclic) (n : Node) (f : Frame) :
    ∃ run : Run String,
      (∀ limit, s.partials.names.length < limit → n.renderWithin s limit f = run) ∧
      (∀ deeper, renderOver s deeper s.partials.names.length n f = run) ∧
      (s.Settles → Ends s n f run.outcome) := by
  have hdeeper : ∀ deeper, renderOver s deeper s.partials.names.length n f =
      renderOver s (fun _ _ => pure "") s.partials.names.length n f :=
    fun deeper => renderOver_eq_of_stack h (Scope.Stack.nil s n) (by simp) f
  have hlimit : ∀ limit, s.partials.names.length < limit → n.renderWithin s limit f =
      renderOver s (fun _ _ => pure "") s.partials.names.length n f := by
    intro limit hlt
    obtain ⟨more, rfl⟩ : ∃ more, limit = more + s.partials.names.length + 1 :=
      ⟨limit - s.partials.names.length - 1, by omega⟩
    rw [renderWithin_eq_renderOver]
    exact hdeeper _
  refine ⟨_, hlimit, hdeeper, fun hs => ⟨?_, s.partials.names.length + 1, ?_⟩⟩
  · have hnone : ∀ (_ : Node) (_ : Frame), (pure "" : Run String).Settles :=
      fun _ _ => Settled.ok ""
    exact settles_renderOver hs hnone _ n f
  · rw [hlimit _ (Nat.lt_succ_self _)]

/-- A menu with a row for each of its items, and a mark in each row. -/
def menuRegistry : Registry where
  helpers := Helper.builtins
  partials :=
    [("menu", .text "\x7b\x7b#each items\x7d\x7d\x7b\x7b> row\x7d\x7d\x7b\x7b/each\x7d\x7d"),
      ("row", .text "\x7b\x7b> mark\x7d\x7d\x7b\x7bname\x7d\x7d")]

/-- The scope of the menu. The mark is given for the occasion. -/
def menuScope : Scope :=
  menuRegistry.scope [] [("mark", .text "* ")]

theorem acyclic_menu : menuScope.Acyclic := by
  refine Scope.acyclic_of_rank (fun name => ["mark", "row", "menu"].idxOf name) ?_
  rintro name other ⟨source, tree, hsource, hparse, hother⟩
  have hmenu : ofTemplate "\x7b\x7b#each items\x7d\x7d\x7b\x7b> row\x7d\x7d\x7b\x7b/each\x7d\x7d" =
      .ok (.program [.block ⟨["each"], 0, "each"⟩ [.path ⟨["items"], 0, "items"⟩]
        (.program [.inclusion "row" none]) none (some (.path ⟨["each"], 0, "each"⟩)) false]) := by
    decide +kernel
  have hrow : ofTemplate "\x7b\x7b> mark\x7d\x7d\x7b\x7bname\x7d\x7d" =
      .ok (.program [.inclusion "mark" none, .insertion ⟨["name"], 0, "name"⟩ []]) := by
    decide +kernel
  have hmark : ofTemplate "* " = .ok (.program [.content "* "]) := by decide +kernel
  have hname : name ∈ ["mark", "menu", "row"] := Scope.mem_names_of_source? hsource
  simp only [List.mem_cons, List.not_mem_nil, or_false] at hname
  rcases hname with rfl | rfl | rfl
  · cases hsource
    cases hmark.symm.trans hparse
    cases hother
  · cases hsource
    cases hmenu.symm.trans hparse
    obtain rfl : other = "row" := List.mem_singleton.1 hother
    decide
  · cases hsource
    cases hrow.symm.trans hparse
    obtain rfl : other = "mark" := List.mem_singleton.1 hother
    decide

/-- A menu of one item. -/
def menuFrame : Frame :=
  ⟨.mapping [(.text "items", .list [.mapping [(.text "name", .text "tea")]])], []⟩

theorem ends_of_acyclic_menu :
    menuScope.Acyclic ∧ menuScope.Settles ∧
      ∃ run : Run String,
        (∀ limit, 3 < limit →
          (Node.inclusion "menu" none).renderWithin menuScope limit menuFrame = run) ∧
        (∀ deeper, renderOver menuScope deeper 3 (.inclusion "menu" none) menuFrame = run) ∧
        Ends menuScope (.inclusion "menu" none) menuFrame run.outcome := by
  have hsettles : menuScope.Settles :=
    Scope.settles_scope _ Helper.settles_builtins (by simp)
  obtain ⟨run, hlimit, hdeeper, hends⟩ :=
    ends_of_acyclic acyclic_menu (.inclusion "menu" none) menuFrame
  exact ⟨acyclic_menu, hsettles, run, hlimit, hdeeper, hends hsettles⟩

end Node

end Templating
