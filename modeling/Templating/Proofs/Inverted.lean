import Templating.Proofs.Sections

/-!
# Inverted sections as blocks

An inverted section is served by routes of its own: an inverse form decides by itself, the builtin
helper for sections that name none is passed by, and every other helper gets a body that gives
nothing. Still a reader may take it for a block whose body is empty and whose inverse part is the
body of the section, unless a helper has an inverse form that says otherwise
(`Scope.InvertsAsBlock`): the two end with the same output or the same failure
(`Node.outcome_renderWithin_inverted`). Their events differ, for only a block reports that no helper
serves it.
-/

namespace Templating

open Run

/-- Whether inverted sections with a head and so many parameters are blocks with an empty body. -/
inductive Scope.InvertsAsBlock (s : Scope) (p : Path) (count : Nat) : Prop where
  /-- The head names a helper without an inverse form. -/
  | named {h : Helper} (hhelper : s.helperAt? p = .ok (some h)) (hinverse : h.inverse = none)
  /-- The head names no helper, and the one for such sections has no inverse form. -/
  | missing {h : Helper} (hhelper : s.helperAt? p = .ok none) (hmissing : s.missingHelper = .ok h)
      (hinverse : h.inverse = none)
  /-- The head names no helper, and the one for such sections is the builtin, which takes one value
  only. -/
  | builtin (hhelper : s.helperAt? p = .ok none)
      (hmissing : s.missingHelper = .ok .builtinMissing) (hcount : count ≤ 1)

namespace Block

variable {s : Scope} {p : Path} {count : Nat}

/-- A body that gives nothing, and the section in the place of the inverse part. -/
theorem asInversePart_eq (h : Helper) (i : Input) (body : Value → Run String) :
    asInversePart h i body = (h.run i.arguments).run (bodies (fun _ => pure "") body) :=
  rfl

/-- One helper, which both routes find, gets the same arguments and bodies. -/
theorem outcome_asInversePart {h : Helper} {helper : Option Helper} {name : String}
    (hserving : (serving s name helper).outcome = .ok h) (i : Input)
    (body : Value → Run String) :
    (asInversePart h i body).outcome =
      (ordinary s name helper i (fun _ => pure "") body).outcome := by
  rw [asInversePart_eq, ordinary_eq, outcome_bind, hserving]
  rfl

/-- The two routes to the helper of a section. -/
theorem outcome_inverted (h : s.InvertsAsBlock p count) {helper : Option Helper}
    (hhelper : s.helperAt? p = .ok helper) (i : Input) (hmore : count ≤ 1 → i.more = [])
    (body : Value → Run String) :
    (inverted s helper i body).outcome =
      (ordinary s p.written helper i (fun _ => pure "") body).outcome := by
  cases h with
  | @named h hnamed hinverse =>
      obtain rfl : some h = helper := Except.ok.inj (hnamed.symm.trans hhelper)
      rw [inverted]
      simp only [hinverse]
      exact outcome_asInversePart rfl i body
  | @missing h hnamed hmissing hinverse =>
      obtain rfl : none = helper := Except.ok.inj (hnamed.symm.trans hhelper)
      rw [inverted, hmissing, ofExcept_ok, pure_bind]
      simp only [hinverse]
      refine outcome_asInversePart ?_ i body
      rw [serving, hmissing]
      rfl
  | builtin hnamed hmissing hcount =>
      obtain rfl : none = helper := Except.ok.inj (hnamed.symm.trans hhelper)
      obtain ⟨this, value, more⟩ := i
      obtain rfl : more = [] := hmore hcount
      -- The shortcut past the builtin and the builtin itself decide by the same choice.
      have hserved : s.ServedBy p .missing :=
        ⟨hnamed, fun _ => ⟨_, hmissing, Helper.servesMissing_builtinMissing⟩⟩
      have hinverted := inverted_of_servedBy hserved this value body
      have hordinary := ordinary_of_servedBy hserved this value (fun _ => pure "") body
      rw [show Builtin.missing.named? = none from rfl] at hinverted hordinary
      rw [hinverted, hordinary, outcome_bind (Builtin.announce _ _), Builtin.outcome_announce]
      rfl

/-- A block hands over the parameters after the first. -/
theorem more_of_inputFor {f : Frame} {helper : Option Helper} {values : List Value} {i : Input}
    (h : (inputFor p f helper values).outcome = .ok i) : i.more = values.tail := by
  cases values with
  | cons value more =>
      cases h
      rfl
  | nil =>
      cases helper with
      | some _ =>
          cases h
          rfl
      | none =>
          obtain ⟨value, -, hi⟩ := outcome_bind_eq_ok.1 h
          cases hi
          rfl

end Block

namespace Node

variable {s : Scope} {included : Node → Frame → Run String} {p : Path} {params : List Node}

/-- Every node that is visited gives one visit. -/
theorem length_of_visitAll {ns : List Node} {f : Frame} {visits : List Visit}
    (h : (visitAll s included ns f).outcome = .ok visits) : visits.length = ns.length := by
  induction ns generalizing visits with
  | nil =>
      cases h
      rfl
  | cons n ns ih =>
      obtain ⟨first, -, h⟩ := outcome_bind_eq_ok.1 h
      obtain ⟨rest, hrest, h⟩ := outcome_bind_eq_ok.1 h
      cases h
      rw [List.length_cons, List.length_cons, ih hrest]

/-- A program without statements gives the empty text. -/
theorem text_visit_empty (f : Frame) :
    (·.text) <$> visit s included (.program []) f = pure "" := by
  rw [text_visit_program, output_nil]

/-- An inverted section ends as the block with an empty body does. -/
theorem outcome_visit_inverted (h : s.InvertsAsBlock p params.length) (body : Node)
    (other closing closing' : Option Node) (f : Frame) :
    (visit s included (.block p params body other closing true) f).outcome =
      (visit s included (.block p params (.program []) (some body) closing' false) f).outcome := by
  rw [visit_block, visit_block]
  refine outcome_bind_congr rfl fun helper hhelper => ?_
  refine outcome_bind_congr rfl fun visits hvisits => ?_
  refine outcome_bind_congr rfl fun input hinput => ?_
  refine outcome_bind_congr ?_ fun _ _ => rfl
  have hmore : params.length ≤ 1 → input.more = [] := by
    intro hone
    have hlength := length_of_visitAll hvisits
    rw [Block.more_of_inputFor hinput, ← List.length_eq_zero_iff, List.length_tail,
      List.length_map]
    omega
  simp only [text_visit_empty]
  exact Block.outcome_inverted h hhelper input hmore _

/-- A statement makes way for another one with the same output and the same failure, wherever it
stands among other statements. -/
theorem outcome_renderWithin_replace {n m : Node} {f : Frame}
    (h : ∀ included, ((·.text) <$> visit s included n f).outcome =
      ((·.text) <$> visit s included m f).outcome) (before after : List Node) (limit : Nat) :
    ((Node.program (before ++ n :: after)).renderWithin s limit f).outcome =
      ((Node.program (before ++ m :: after)).renderWithin s limit f).outcome := by
  cases limit with
  | zero => rfl
  | succ limit =>
      rw [renderWithin, renderWithin, text_visit_program, text_visit_program, output_append,
        output_append]
      refine outcome_bind_congr rfl fun first _ => ?_
      refine outcome_bind_congr ?_ fun _ _ => rfl
      rw [output_cons, output_cons]
      exact outcome_bind_congr (h _) fun _ _ => rfl

/-- **An inverted section is a block with an empty body** and the section as its inverse part:
wherever it stands among other statements, the output and the failure are the same. -/
theorem outcome_renderWithin_inverted (h : s.InvertsAsBlock p params.length) (body : Node)
    (other closing closing' : Option Node) (before after : List Node) (limit : Nat) (f : Frame) :
    ((Node.program (before ++ .block p params body other closing true :: after)).renderWithin s
      limit f).outcome =
    ((Node.program (before ++ .block p params (.program []) (some body) closing' false ::
      after)).renderWithin s limit f).outcome := by
  refine outcome_renderWithin_replace (fun included => ?_) before after limit
  rw [← bind_pure_comp, ← bind_pure_comp]
  exact outcome_bind_congr (outcome_visit_inverted h body other closing closing' f)
    fun _ _ => rfl

/-- The head of a section over the items of a list. -/
def eachPath : Path where
  parts := ["each"]
  written := "each"

theorem outcome_renderWithin_inverted_each :
    builtinScope.InvertsAsBlock eachPath [Node.path guestsPath].length ∧
      ((Node.program ([.content "at home: "] ++ .block eachPath [.path guestsPath]
        (.program [.content "nobody"]) none none true :: [])).renderWithin builtinScope 1
          emptyHouse).outcome =
      ((Node.program ([.content "at home: "] ++ .block eachPath [.path guestsPath] (.program [])
        (some (.program [.content "nobody"])) none false :: [])).renderWithin builtinScope 1
          emptyHouse).outcome := by
  have hinverts : builtinScope.InvertsAsBlock eachPath [Node.path guestsPath].length :=
    .named (h := { run := Helper.each }) rfl rfl
  exact ⟨hinverts, outcome_renderWithin_inverted hinverts _ none none none _ _ _ _⟩

end Node

end Templating
