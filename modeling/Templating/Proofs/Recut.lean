import Templating.Proofs.Inlining

/-!
# Comments and the cutting of text

A comment adds nothing to the output, and text comes out the same however it is cut into contents.
So two programs that differ in that only, at any places and inside the parts of blocks (`Recut`),
are rendered alike: with the same output or the same failure, and with the same events on the way.
No helper can tell them apart either, as it sees of its bodies nothing but what comes of them.
-/

namespace Templating

namespace Node

/-- Statements that come of each other by leaving comments out, by cutting a text in two, and by the
reverse of both, as often as one likes, among the statements and inside the parts of blocks. -/
inductive Recut : List Node → List Node → Prop where
  | refl (ns : List Node) : Recut ns ns
  | symm {ns ns' : List Node} (h : Recut ns ns') : Recut ns' ns
  | trans {ms ns ns' : List Node} (h : Recut ms ns) (h' : Recut ns ns') : Recut ms ns'
  | comment (text : String) (ns : List Node) : Recut (.comment text :: ns) ns
  | cut (text text' : String) (ns : List Node) :
      Recut (.content (text ++ text') :: ns) (.content text :: .content text' :: ns)
  | keep (n : Node) {ns ns' : List Node} (rest : Recut ns ns') : Recut (n :: ns) (n :: ns')
  | body {p : Path} {params body body' ns : List Node} {inverse closing : Option Node}
      {inverted : Bool} (inside : Recut body body') :
      Recut (.block p params (.program body) inverse closing inverted :: ns)
        (.block p params (.program body') inverse closing inverted :: ns)
  | inverse {p : Path} {params other other' ns : List Node} {body : Node} {closing : Option Node}
      {inverted : Bool} (inside : Recut other other') :
      Recut (.block p params body (some (.program other)) closing inverted :: ns)
        (.block p params body (some (.program other')) closing inverted :: ns)

mutual

/-- Statements without the comments among them and inside the parts of their blocks. -/
def dropComments : List Node → List Node
  | [] => []
  | .comment _ :: ns => dropComments ns
  | .block p params body none closing inverted :: ns =>
    .block p params (dropCommentsInside body) none closing inverted :: dropComments ns
  | .block p params body (some inverse) closing inverted :: ns =>
    .block p params (dropCommentsInside body) (some (dropCommentsInside inverse)) closing inverted
      :: dropComments ns
  | n :: ns => n :: dropComments ns

/-- A part of a block without comments. -/
def dropCommentsInside : Node → Node
  | .program ns => .program (dropComments ns)
  | n => n

end

namespace Recut

instance : Trans Recut Recut Recut := ⟨trans⟩

/-- Statements after the same first ones. -/
theorem append_left (ms : List Node) {ns ns' : List Node} (h : Recut ns ns') :
    Recut (ms ++ ns) (ms ++ ns') := by
  induction ms with
  | nil => exact h
  | cons m _ ih => exact .keep m ih

/-- A text may be cut into any number of pieces. -/
theorem pieces (text : String) (more : List String) (ns : List Node) :
    Recut (.content (text ++ String.join more) :: ns)
      ((text :: more).map .content ++ ns) := by
  induction more generalizing text with
  | nil =>
      rw [String.join_nil, String.append_empty]
      exact .refl _
  | cons piece more ih =>
      rw [String.join_cons]
      exact (cut text _ ns).trans (.keep _ (ih piece))

/-- A block of which both parts may differ. -/
theorem block {p : Path} {params body body' other other' ns ns' : List Node}
    {closing : Option Node} {inverted : Bool} (inside : Recut body body')
    (insideOther : Recut other other') (rest : Recut ns ns') :
    Recut (.block p params (.program body) (some (.program other)) closing inverted :: ns)
      (.block p params (.program body') (some (.program other')) closing inverted :: ns') :=
  (Recut.body inside).trans ((Recut.inverse insideOther).trans (.keep _ rest))

end Recut

/-! ## Leaving out all comments -/

mutual

theorem recut_dropComments : ∀ ns : List Node, Recut ns (dropComments ns)
  | [] => .refl _
  | .comment text :: ns => (Recut.comment text ns).trans (recut_dropComments ns)
  | .block p params body none closing inverted :: ns =>
      (recut_dropBody p params body none closing inverted ns).trans
        (.keep _ (recut_dropComments ns))
  | .block p params body (some inverse) closing inverted :: ns =>
      ((recut_dropBody p params body (some inverse) closing inverted ns).trans
        (recut_dropInverse p params _ inverse closing inverted ns)).trans
          (.keep _ (recut_dropComments ns))
  | .content _ :: ns | .program _ :: ns | .insertion _ _ :: ns | .inclusion _ _ :: ns
  | .path _ :: ns | .literal _ :: ns | .foreign _ :: ns => .keep _ (recut_dropComments ns)

theorem recut_dropBody (p : Path) (params : List Node) :
    ∀ (body : Node) (inverse closing : Option Node) (inverted : Bool) (ns : List Node),
      Recut (.block p params body inverse closing inverted :: ns)
        (.block p params (dropCommentsInside body) inverse closing inverted :: ns)
  | .program body, _, _, _, _ => .body (recut_dropComments body)
  | .content _, _, _, _, _ | .comment _, _, _, _, _ | .insertion _ _, _, _, _, _
  | .block _ _ _ _ _ _, _, _, _, _ | .inclusion _ _, _, _, _, _ | .path _, _, _, _, _
  | .literal _, _, _, _, _ | .foreign _, _, _, _, _ => .refl _

theorem recut_dropInverse (p : Path) (params : List Node) (body : Node) :
    ∀ (inverse : Node) (closing : Option Node) (inverted : Bool) (ns : List Node),
      Recut (.block p params body (some inverse) closing inverted :: ns)
        (.block p params body (some (dropCommentsInside inverse)) closing inverted :: ns)
  | .program inverse, _, _, _ => .inverse (recut_dropComments inverse)
  | .content _, _, _, _ | .comment _, _, _, _ | .insertion _ _, _, _, _
  | .block _ _ _ _ _ _, _, _, _ | .inclusion _ _, _, _, _ | .path _, _, _, _
  | .literal _, _, _, _ | .foreign _, _, _, _ => .refl _

end

/-! ## Rendering -/

section Output

variable {s : Scope} {included : Node → Frame → Run String}

theorem output_comment (text : String) (ns : List Node) (f : Frame) :
    output s included (.comment text :: ns) f = output s included ns f := by
  have hcomment : (·.text) <$> visit s included (.comment text) f = pure "" := rfl
  rw [output_cons, hcomment]
  simp only [pure_bind, String.empty_append, bind_pure]

theorem output_content (text : String) (ns : List Node) (f : Frame) :
    output s included (.content text :: ns) f = (do
      let rest ← output s included ns f
      pure (text ++ rest)) := by
  have hcontent : (·.text) <$> visit s included (.content text) f = pure text := rfl
  rw [output_cons, hcontent, pure_bind]

/-- Statements that differ in their comments and in the cutting of their texts do the same. -/
theorem output_eq_of_recut {ns ns' : List Node} (h : Recut ns ns') (f : Frame) :
    output s included ns f = output s included ns' f := by
  -- Along the relation, for all frames: the parts of a block are rendered in other ones.
  induction h generalizing f with
  | refl => rfl
  | symm _ ih => exact (ih f).symm
  | trans _ _ ih ih' => exact (ih f).trans (ih' f)
  | comment text ns => exact output_comment text ns f
  | cut text text' ns =>
      rw [output_content, output_content, output_content]
      simp only [bind_assoc, pure_bind, String.append_assoc]
  | keep n _ ih => rw [output_cons, output_cons, ih]
  | @body p params body body' ns inverse closing inverted _ ih =>
      refine output_cons_congr Run.compositional_eq (congrArg _ ?_) rfl
      refine visit_block_congr Run.compositional_eq ((Scope.Alike.refl s).sameHead p f) rfl
        (fun data => ?_) (fun _ => rfl) closing closing inverted
      rw [text_visit_program, text_visit_program]
      exact ih _
  | @inverse p params other other' ns body closing inverted _ ih =>
      refine output_cons_congr Run.compositional_eq (congrArg _ ?_) rfl
      refine visit_block_congr Run.compositional_eq ((Scope.Alike.refl s).sameHead p f) rfl
        (fun _ => rfl) (fun data => ?_) closing closing inverted
      rw [partOutput, partOutput, text_visit_program, text_visit_program]
      exact ih _

end Output

/-- **Comments and the cutting of text do not count.** Leaving out all comments, and any change by
leaving out comments and by cutting or joining texts, also inside the parts of blocks, keeps every
rendering as it is. -/
theorem renderWithin_recut (s : Scope) (limit : Nat) (f : Frame) :
    (∀ ns, (program (dropComments ns)).renderWithin s limit f =
      (program ns).renderWithin s limit f) ∧
    ∀ {ns ns' : List Node}, Recut ns ns' →
      (program ns).renderWithin s limit f = (program ns').renderWithin s limit f := by
  have hrecut : ∀ {ns ns' : List Node}, Recut ns ns' →
      (program ns).renderWithin s limit f = (program ns').renderWithin s limit f := by
    intro ns ns' h
    cases limit with
    | zero => rfl
    | succ limit =>
        rw [renderWithin_program, renderWithin_program]
        exact output_eq_of_recut h f
  exact ⟨fun ns => (hrecut (recut_dropComments ns)).symm, hrecut⟩

/-- A helper that renders its body twice, and its other body never. -/
def twice : Helper where
  run
    | [_, value, .body slot, _] => do
      let first ← Script.body slot value.data
      let second ← Script.body slot value.data
      return .text (first ++ second)
    | args => .fail (.excessArguments "twice" 4 4 args.length)

/-- A scope with that helper. -/
def twiceScope : Scope where
  helpers := ⟨[("twice", .helper twice)], []⟩
  partials := ⟨[], []⟩

/-- A block with the given body and inverse part, and text before it. -/
def twiceBlock (before body inverse : List Node) : List Node :=
  before ++ [.block ⟨["twice"], 0, "twice"⟩ [] (.program body) (some (.program inverse)) none false]

theorem recut_twiceBlock :
    Recut
      (twiceBlock [.content "-"] [.content "a", .comment "once", .content "bc"] [.comment "never"])
      (twiceBlock [.content "-"] [.content "ab", .content "", .content "c"] []) := by
  have hbody : Recut [.content "a", .comment "once", .content "bc"]
      [.content "ab", .content "", .content "c"] :=
    calc
      Recut _ [.content "a", .content "bc"] := .keep _ (.comment _ _)
      Recut _ [.content "abc"] := (Recut.pieces "a" ["bc"] []).symm
      Recut _ _ := .pieces "ab" ["", "c"] []
  exact .append_left _ (.block hbody (.comment _ _) (.refl _))

theorem renderWithin_recut_twice :
    (∀ ns, (program (dropComments ns)).renderWithin twiceScope 1 ⟨.none, []⟩ =
      (program ns).renderWithin twiceScope 1 ⟨.none, []⟩) ∧
    (program (twiceBlock [.content "-"] [.content "a", .comment "once", .content "bc"]
        [.comment "never"])).renderWithin twiceScope 1 ⟨.none, []⟩ =
      (program (twiceBlock [.content "-"] [.content "ab", .content "", .content "c"]
        [])).renderWithin twiceScope 1 ⟨.none, []⟩ ∧
    ((program (twiceBlock [.content "-"] [.content "ab", .content "", .content "c"]
      [])).renderWithin twiceScope 1 ⟨.none, []⟩).outcome = .ok "-abcabc" :=
  ⟨(renderWithin_recut twiceScope 1 _).1, (renderWithin_recut twiceScope 1 _).2 recut_twiceBlock,
    by decide +kernel⟩

end Node

end Templating
