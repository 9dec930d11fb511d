import Templating.Proofs.Inlining
import Templating.Proofs.Overrides
import Templating.Proofs.Weakening

/-!
# The names that a template mentions

A rendering looks up a name in the tables only if the name stands in a template: as the plain name
at the head of an insertion or a block (`Node.heads`), or as the name of a partial
(`Node.inclusions`), in the template itself or in the text of a partial that is included from it
(`Scope.Reaches`). Beside these there is the helper for blocks without one. Tables in which these
names find the same cannot be told apart (`renderTemplate_eq_of_agreesFor`): the paths of parameters
name no helpers, and neither do paths that step outwards or into a member.
-/

namespace Templating

open Run

/-! ## Names in a tree -/

/-- The name that a path is, if it is a plain one. -/
def Path.plainName (p : Path) : List String :=
  if p.isSimple then [p.written] else []

namespace Node

mutual

/-- The plain names at the heads of insertions and blocks, in reading order. -/
def heads : Node → List String
  | .program statements => headsIn statements
  | .insertion p params => p.plainName ++ headsIn params
  | .block p params body inverse _ _ =>
    p.plainName ++ headsIn params ++ body.heads ++ headsInPart inverse
  | .inclusion _ context => headsInPart context
  | .content _ | .comment _ | .path _ | .literal _ | .foreign _ => []

/-- The plain names at the heads in trees in a row. -/
def headsIn : List Node → List String
  | [] => []
  | n :: ns => n.heads ++ headsIn ns

/-- The plain names at the heads in a part of a tree, if it is there. -/
def headsInPart : Option Node → List String
  | none => []
  | some n => n.heads

end

end Node

namespace Scope

/-- The trees that are rendered in the course of a tree: itself, and what is reached from the trees
of the partials that it includes. -/
inductive Reaches (s : Scope) : Node → Node → Prop where
  | here (n : Node) : Reaches s n n
  | inside {name source : String} {n m k : Node} (hname : name ∈ n.inclusions)
      (hsource : s.source? name = some (.text source)) (hparse : Node.ofTemplate source = .ok m)
      (rest : Reaches s m k) : Reaches s n k

/-- Whether every name that a tree mentions, by itself or through partials, finds the same in two
scopes, and blocks without a helper of their own are served by the same. -/
structure AgreesFor (s s' : Scope) (n : Node) : Prop where
  head : ∀ m, s.Reaches n m → ∀ name ∈ m.heads, s.helper? name = s'.helper? name
  source : ∀ m, s.Reaches n m → ∀ name ∈ m.inclusions, s.source? name = s'.source? name
  missing : s.missingHelper = s'.missingHelper

/-- Beside texts only what is empty stands for a template, and that is the empty one. -/
theorem template_eq_ok {entry : Value} {source : String} (h : entry.template = .ok source) :
    entry = .text source ∨ source = "" := by
  unfold Value.template at h
  split at h
  · exact .inl (congrArg _ (Except.ok.inj h))
  · obtain ⟨count, -, h⟩ := bind_eq_ok.1 h
    split at h
    · exact .inr (Except.ok.inj h).symm
    · split at h
      all_goals cases h

/-- The tree of a partial is that of its text, or the empty one. -/
theorem outcome_parsePartial_eq_ok {s : Scope} {name : String} {tree : Node}
    (h : (s.parsePartial name).outcome = .ok tree) :
    ∃ entry, s.source? name = some entry ∧
      ((∃ source, entry = .text source ∧ Node.ofTemplate source = .ok tree) ∨
        tree = .program []) := by
  unfold parsePartial at h
  split at h
  · cases h
  · rename_i entry hentry
    refine ⟨entry, hentry, ?_⟩
    rw [outcome_bind] at h
    obtain ⟨source, hsource, hparse⟩ := bind_eq_ok.1 h
    rw [outcome_parseTemplate_eq_ok] at hparse
    obtain htext | rfl := template_eq_ok hsource
    · exact .inl ⟨source, htext, hparse⟩
    · have hempty : Node.ofTemplate "" = .ok (.program []) := by decide +kernel
      exact .inr (Except.ok.inj (hparse.symm.trans hempty))

/-- Nothing else is rendered in the course of a tree without partials. -/
theorem Reaches.eq_of_inclusions {s : Scope} {n m : Node} (h : s.Reaches n m)
    (hn : n.inclusions = []) : m = n := by
  cases h with
  | here => rfl
  | inside hname => simp [hn] at hname

theorem AgreesFor.nil {s s' : Scope} (h : s.missingHelper = s'.missingHelper) :
    AgreesFor s s' (.program []) where
  head m hm name hname := by
    obtain rfl := hm.eq_of_inclusions rfl
    cases hname
  source m hm name hname := by
    obtain rfl := hm.eq_of_inclusions rfl
    cases hname
  missing := h

/-- The trees of the partials mention nothing else. -/
theorem AgreesFor.included {s s' : Scope} {n : Node} (h : AgreesFor s s' n) {name : String}
    (hname : name ∈ n.inclusions) {tree : Node} (htree : (s.parsePartial name).outcome = .ok tree) :
    AgreesFor s s' tree := by
  obtain ⟨entry, hentry, ⟨source, rfl, hparse⟩ | rfl⟩ := outcome_parsePartial_eq_ok htree
  · exact ⟨fun m hm => h.head m (.inside hname hentry hparse hm),
      fun m hm => h.source m (.inside hname hentry hparse hm), h.missing⟩
  · exact .nil h.missing

/-- A path finds the same helper in two scopes if its plain name does. -/
theorem helperAt?_congr {s s' : Scope} {p : Path}
    (h : ∀ name ∈ p.plainName, s.helper? name = s'.helper? name) :
    s.helperAt? p = s'.helperAt? p := by
  unfold helperAt?
  split
  · rename_i hsimple
    exact h p.written (by simp [Path.plainName, hsimple])
  · rfl

end Scope

/-! ## One tree -/

namespace Node

/-- Whether two ways to render trees are the same for all that some names mention: `heads` stand at
the heads of tags, `inclusions` are names of partials. -/
structure SameFor (s s' : Scope) (included included' : Node → Frame → Run String)
    (heads inclusions : List String) : Prop where
  head : ∀ name ∈ heads, s.helper? name = s'.helper? name
  tree : ∀ name ∈ inclusions, s.parsePartial name = s'.parsePartial name
  included : ∀ name ∈ inclusions, ∀ tree, (s.parsePartial name).outcome = .ok tree →
    ∀ f, included tree f = included' tree f
  missing : s.missingHelper = s'.missingHelper

section

variable {s s' : Scope} {included included' : Node → Frame → Run String}
  {heads heads' inclusions inclusions' : List String}

/-- Fewer names. -/
theorem SameFor.mono (h : SameFor s s' included included' heads inclusions)
    (hheads : heads' ⊆ heads) (hinclusions : inclusions' ⊆ inclusions) :
    SameFor s s' included included' heads' inclusions' :=
  ⟨fun name hname => h.head name (hheads hname), fun name hname => h.tree name (hinclusions hname),
    fun name hname => h.included name (hinclusions hname), h.missing⟩

theorem SameFor.left
    (h : SameFor s s' included included' (heads ++ heads') (inclusions ++ inclusions')) :
    SameFor s s' included included' heads inclusions :=
  h.mono (List.subset_append_left _ _) (List.subset_append_left _ _)

theorem SameFor.right
    (h : SameFor s s' included included' (heads ++ heads') (inclusions ++ inclusions')) :
    SameFor s s' included included' heads' inclusions' :=
  h.mono (List.subset_append_right _ _) (List.subset_append_right _ _)

/-- The head of a tag, and what comes after it. -/
theorem SameFor.sameHead {p : Path}
    (h : SameFor s s' included included' (p.plainName ++ heads) inclusions) (f : Frame) :
    SameHead s s' p p f f :=
  ⟨Scope.helperAt?_congr fun name hname => h.head name (List.mem_append_left _ hname), h.missing,
    rfl, rfl, rfl⟩

theorem SameFor.params {p : Path}
    (h : SameFor s s' included included' (p.plainName ++ heads) inclusions) :
    SameFor s s' included included' heads inclusions :=
  h.mono (List.subset_append_right _ _) (List.Subset.refl _)

mutual

/-- Only the names in a tree decide what is looked up. -/
theorem visit_eq_of_sameFor : ∀ (n : Node) (f : Frame),
    SameFor s s' included included' n.heads n.inclusions →
      visit s included n f = visit s' included' n f
  | .program statements, f, h => by
      rw [visit_program, visit_program, visitAll_eq_of_sameFor statements f h]
  | .content _, _, _ => rfl
  | .comment _, _, _ => rfl
  | .insertion _ params, f, h =>
      visit_insertion_congr compositional_eq (h.sameHead f)
        (visitAll_eq_of_sameFor params f h.params)
  | .block _ params body inverse closing inverted, f, h =>
      visit_block_congr compositional_eq (h.left.left.sameHead f)
        (visitAll_eq_of_sameFor params f h.left.left.params)
        (fun _ => congrArg _ (visit_eq_of_sameFor body _ h.left.right))
        (fun _ => partOutput_eq_of_sameFor inverse _ h.right) closing closing inverted
  | .inclusion name none, f, h => by
      rw [visit_inclusion, visit_inclusion, ← h.tree name List.mem_cons_self]
      refine bind_congr_of_ok fun tree htree => ?_
      rw [h.included name List.mem_cons_self tree htree]
  | .inclusion name (some context), f, h => by
      rw [visit_inclusion_within, visit_inclusion_within, ← h.tree name List.mem_cons_self]
      refine bind_congr_of_ok fun tree htree => ?_
      have hcontext : SameFor s s' included included' context.heads context.inclusions :=
        h.mono (List.Subset.refl _) (List.subset_cons_self _ _)
      rw [visit_eq_of_sameFor context f hcontext]
      refine bind_congr fun v => ?_
      rw [h.included name List.mem_cons_self tree htree]
  | .path _, _, _ => rfl
  | .literal _, _, _ => rfl
  | .foreign _, _, _ => rfl

theorem visitAll_eq_of_sameFor : ∀ (ns : List Node) (f : Frame),
    SameFor s s' included included' (headsIn ns) (inclusionsIn ns) →
      visitAll s included ns f = visitAll s' included' ns f
  | [], _, _ => rfl
  | n :: ns, f, h => by
      rw [visitAll_cons, visitAll_cons, visit_eq_of_sameFor n f h.left,
        visitAll_eq_of_sameFor ns f h.right]

theorem partOutput_eq_of_sameFor : ∀ (part : Option Node) (f : Frame),
    SameFor s s' included included' (headsInPart part) (inclusionsInPart part) →
      partOutput s included part f = partOutput s' included' part f
  | none, _, _ => rfl
  | some n, f, h => by
      rw [partOutput, partOutput, visit_eq_of_sameFor n f h]

end

end

/-- Within every limit, scopes that agree for a tree render it alike. -/
theorem renderWithin_eq_of_agreesFor {s s' : Scope} {n : Node} (h : s.AgreesFor s' n) (limit : Nat)
    (f : Frame) : n.renderWithin s limit f = n.renderWithin s' limit f := by
  -- By the limit, for all trees: the tree of a partial is no part of the tree that includes it.
  induction limit generalizing n f with
  | zero => rfl
  | succ limit ih =>
      have hsame : SameFor s s' (renderWithin s limit) (renderWithin s' limit) n.heads
          n.inclusions := by
        refine ⟨h.head n (.here n), fun name hname => ?_, fun name hname tree htree f => ?_,
          h.missing⟩
        · rw [Scope.parsePartial, Scope.parsePartial, h.source n (.here n) name hname]
        · exact ih (h.included hname htree) f
      rw [renderWithin, renderWithin, visit_eq_of_sameFor n f hsame]

end Node

/-! ## Paths that name no helper -/

theorem Grammar.eq_of_withoutThis_eq_singleton {texts : List String} {name : String}
    (h : withoutThis texts = [name]) (hname : name ≠ Path.parentSegment) :
    (texts = [name] ∧ name ≠ Path.thisSegment) ∨ texts = [Path.thisSegment, name] := by
  cases texts with
  | nil => cases h
  | cons text rest =>
      by_cases hparent : text = Path.parentSegment
      · subst hparent
        rw [withoutThis_parent] at h
        exact absurd (List.cons.inj h).1.symm hname
      · by_cases hthis : text = Path.thisSegment
        · subst hthis
          rw [withoutThis_this] at h
          exact .inr (by rw [h])
        · rw [withoutThis_name hparent hthis] at h
          obtain ⟨rfl, rfl⟩ := List.cons.inj h
          exact .inl ⟨rfl, hthis⟩

/-- A path is a plain name if it is written as one word, which is neither the step to the parent nor
`this`. -/
theorem Grammar.IsPath.isSimple_iff {us : List Token} {p : Path} (h : IsPath us p) :
    p.isSimple = true ↔
      ∃ word, us = [word] ∧ word.text ≠ Path.parentSegment ∧ word.text ≠ Path.thisSegment := by
  cases h with
  | @intro texts parts depth hsegments hsteps hnames =>
      obtain ⟨first, more, rfl, rfl, -, -⟩ := exists_spread hsegments
      rw [Path.isSimple_iff]
      constructor
      · rintro ⟨hdepth, hparts⟩
        dsimp only at hdepth hparts
        generalize hwritten : String.join ((first :: spread more).map (·.text)) = written at hparts
        subst hdepth hparts
        rw [List.mem_singleton, eq_comm] at hnames
        obtain ⟨htexts, hthis⟩ | htexts := eq_of_withoutThis_eq_singleton hsteps hnames
        · obtain ⟨rfl, hmore⟩ := List.cons.inj htexts
          obtain rfl := List.map_eq_nil_iff.1 hmore
          exact ⟨first, rfl, hnames, hthis⟩
        · -- What is written has the name in it, and `this` before it.
          obtain ⟨hfirst, hmore⟩ := List.cons.inj htexts
          obtain ⟨s, rest, rfl, rfl, hrest⟩ := List.map_eq_cons_iff.1 hmore
          obtain rfl := List.map_eq_nil_iff.1 hrest
          have hlength := congrArg String.length hwritten
          simp [String.join, hfirst, Path.thisSegment] at hlength
      · rintro ⟨word, hword, hparent, hthis⟩
        obtain ⟨rfl, hmore⟩ := List.cons.inj hword
        cases more with
        | cons s more => cases hmore
        | nil =>
            rw [List.map_nil, withoutThis_name hparent hthis] at hsteps
            cases depth with
            | zero => exact ⟨rfl, by simpa using hsteps.symm⟩
            | succ depth => exact absurd (List.cons.inj hsteps).1 hparent

/-- Parameters that are paths have the values of the paths. -/
theorem Node.eval_path (s : Scope) (f : Frame) (p : Path) :
    (Node.path p).eval s f = Run.ofExcept (f.resolve p) := by
  rw [eval, visit_path]
  simp only [map_bind, map_pure, bind_pure]

/-- An insertion whose head is no plain name gives the value of the path. -/
theorem Node.render_insertion {s : Scope} {p : Path} (h : s.helperAt? p = .ok none)
    (params : List Node) (f : Frame) :
    (Node.insertion p params).render s f = Run.ofExcept (f.resolve p >>= Value.output) := by
  rw [render_eq_visit, visit_insertion, h, ofExcept_ok, pure_bind, ofExcept_bind]
  simp only [map_bind, map_pure, bind_pure]

/-- **Only the names that a template mentions matter.** Tables in which they find the same, with the
same helper for blocks without one, give the same output or failure for all data. Paths other than
plain names find no helper in any tables, and neither do the paths of parameters. -/
theorem renderTemplate_eq_of_agreesFor {template : String} {r r' : Registry}
    {helpers helpers' : Table HelperEntry} {partials partials' : Table Value}
    (h : ∀ n, Node.ofTemplate template = .ok n →
      (r.scope helpers partials).AgreesFor (r'.scope helpers' partials') n) :
    (∀ data, renderTemplate template r data helpers partials =
      renderTemplate template r' data helpers' partials') ∧
    (∀ (s : Scope) (us : List Token) (p : Path), Grammar.IsPath us p →
      (∀ word, us = [word] → word.text = Path.parentSegment ∨ word.text = Path.thisSegment) →
        s.helperAt? p = .ok none ∧ ∀ (params : List Node) (f : Frame),
          (Node.insertion p params).render s f = Run.ofExcept (f.resolve p >>= Value.output)) ∧
    ∀ (s : Scope) (f : Frame) (p : Path), (Node.path p).eval s f = Run.ofExcept (f.resolve p) := by
  refine ⟨fun data => ?_, fun s us p hp hword => ?_, Node.eval_path⟩
  · refine bind_congr_of_ok fun n hn => ?_
    exact Node.renderWithin_eq_of_agreesFor (h n (outcome_parseTemplate_eq_ok.1 hn)) _ _
  · have hsimple : ¬ p.isSimple = true := by
      rw [hp.isSimple_iff]
      rintro ⟨word, hus, hparent, hthis⟩
      exact (hword word hus).elim hparent hthis
    have hnone : s.helperAt? p = .ok none := if_neg hsimple
    exact ⟨hnone, Node.render_insertion hnone⟩

/-- A section that includes a partial if its parameter says so. -/
def doorTemplate : String := "\x7b\x7b#if open\x7d\x7d\x7b\x7b> sign\x7d\x7d\x7b\x7b/if\x7d\x7d"

/-- The tree of the section. -/
def doorTree : Node :=
  .program [.block ⟨["if"], 0, "if"⟩ [.path ⟨["open"], 0, "open"⟩]
    (.program [.inclusion "sign" none]) none (some (.path ⟨["if"], 0, "if"⟩)) false]

/-- The tree of the partial. -/
def signTree : Node :=
  .program [.content "open"]

/-- Helpers for the occasion: one has the name of a parameter, and a builtin helper is hidden. -/
def doorHelpers : Table HelperEntry :=
  [("open", .value (.function (.text "!"))), (Helper.missingName, .value .none)]

/-- A partial for the occasion. -/
def doorPartials : Table Value :=
  [("door", .text "closed")]

/-- What is rendered in the course of the section. -/
theorem Scope.Reaches.eq_door {n m : Node} (h : (signsRegistry.scope [] []).Reaches n m)
    (hn : n = doorTree ∨ n = signTree) : m = doorTree ∨ m = signTree := by
  induction h with
  | here n => exact hn
  | @inside name source n m k hname hsource hparse _ ih =>
      refine ih (.inr ?_)
      rcases hn with rfl | rfl
      · obtain rfl : name = "sign" := List.mem_singleton.1 hname
        obtain rfl : "open" = source := Value.text.inj (Option.some.inj hsource)
        have hsign : Node.ofTemplate "open" = .ok signTree := by decide +kernel
        exact Except.ok.inj (hparse.symm.trans hsign)
      · cases hname

theorem renderTemplate_eq_of_agreesFor_door :
    (∀ n, Node.ofTemplate doorTemplate = .ok n →
      (signsRegistry.scope [] []).AgreesFor (signsRegistry.scope doorHelpers doorPartials) n) ∧
    ∀ data, renderTemplate doorTemplate signsRegistry data [] [] =
      renderTemplate doorTemplate signsRegistry data doorHelpers doorPartials := by
  have hagrees : ∀ n, Node.ofTemplate doorTemplate = .ok n →
      (signsRegistry.scope [] []).AgreesFor (signsRegistry.scope doorHelpers doorPartials) n := by
    intro n hn
    have hdoor : Node.ofTemplate doorTemplate = .ok doorTree := by decide +kernel
    obtain rfl : doorTree = n := Except.ok.inj (hdoor.symm.trans hn)
    refine ⟨fun m hm name hname => ?_, fun m hm name hname => ?_, rfl⟩
    · obtain rfl | rfl := hm.eq_door (.inl rfl)
      · obtain rfl : name = "if" := List.mem_singleton.1 hname
        rfl
      · cases hname
    · obtain rfl | rfl := hm.eq_door (.inl rfl)
      · obtain rfl : name = "sign" := List.mem_singleton.1 hname
        rfl
      · cases hname
  exact ⟨hagrees, (renderTemplate_eq_of_agreesFor hagrees).1⟩

end Templating
