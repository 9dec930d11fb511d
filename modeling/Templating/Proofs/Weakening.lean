import Templating.Proofs.Output

/-!
# A frame in between

Where one more frame stands between a tree and the frames around it, the paths of the tree find
what they found before if those that step out of the tree step one frame further (`Node.lift`). A
path steps out of the tree when it steps out of more frames than the bodies around it have made,
for each rendering of a body makes just one frame, whichever helper asks for it. Partials are left
out: their text stays what it is.
-/

namespace Templating

/-- A number of steps outwards, with one more if it is larger than `k`. -/
def liftDepth (k depth : Nat) : Nat :=
  if k < depth then depth + 1 else depth

@[simp] theorem liftDepth_zero (k : Nat) : liftDepth k 0 = 0 := rfl

@[simp] theorem liftDepth_succ_succ (k depth : Nat) :
    liftDepth (k + 1) (depth + 1) = liftDepth k depth + 1 := by
  simp only [liftDepth, Nat.add_lt_add_iff_right]
  split
  · rfl
  · rfl

/-- A path under `k` bodies of a tree, where one more frame stands around the tree. -/
def Path.lift (k : Nat) (p : Path) : Path :=
  { p with depth := liftDepth k p.depth }

/-- A path that steps outwards is no plain name, however far it steps. -/
@[simp] theorem Path.isSimple_lift (k : Nat) (p : Path) : (p.lift k).isSimple = p.isSimple := by
  simp only [isSimple, lift, liftDepth]
  split
  · rename_i hdepth
    have hne : p.depth ≠ 0 := by omega
    simp [hne]
  · rfl

namespace Node

mutual

/-- A tree under `k` bodies, where one more frame stands around all of it: the paths that step out
of more frames than the bodies around them have made step one frame further. -/
def lift (k : Nat) : Node → Node
  | .program statements => .program (liftAll k statements)
  | .content text => .content text
  | .comment text => .comment text
  | .insertion p params => .insertion (p.lift k) (liftAll k params)
  | .block p params body inverse closing inverted =>
    .block (p.lift k) (liftAll k params) (body.lift (k + 1)) (liftPart (k + 1) inverse)
      (liftPart k closing) inverted
  | .inclusion name context => .inclusion name (liftPart k context)
  | .path p => .path (p.lift k)
  | .literal value => .literal value
  | .foreign kind => .foreign kind

/-- Trees in a row under `k` bodies. -/
def liftAll (k : Nat) : List Node → List Node
  | [] => []
  | n :: ns => n.lift k :: liftAll k ns

/-- A part of a tree, if it is there, under `k` bodies. -/
def liftPart (k : Nat) : Option Node → Option Node
  | none => none
  | some n => some (n.lift k)

end

mutual

/-- The names of the partials that a tree includes, in reading order. -/
def inclusions : Node → List String
  | .program statements => inclusionsIn statements
  | .insertion _ params => inclusionsIn params
  | .block _ params body inverse _ _ =>
    inclusionsIn params ++ body.inclusions ++ inclusionsInPart inverse
  | .inclusion name context => name :: inclusionsInPart context
  | .content _ | .comment _ | .path _ | .literal _ | .foreign _ => []

/-- The names of the partials that trees in a row include. -/
def inclusionsIn : List Node → List String
  | [] => []
  | n :: ns => n.inclusions ++ inclusionsIn ns

/-- The names of the partials that a part of a tree includes, if it is there. -/
def inclusionsInPart : Option Node → List String
  | none => []
  | some n => n.inclusions

end

end Node

/-! ## Two chains of frames -/

/-- Whether the frames of `g` are those of `f` with one more in between, which repeats the data `k`
steps out. -/
def Frame.Repeats (k : Nat) (f g : Frame) : Prop :=
  ∀ depth, g.dataAt? (liftDepth k depth) = f.dataAt? depth

namespace Frame.Repeats

variable {k : Nat} {f g : Frame}

/-- A frame with the data of the frame around it. -/
theorem child_data (f : Frame) : Repeats 0 f (f.child f.data) := by
  intro depth
  cases depth with
  | zero => rfl
  | succ depth => rfl

theorem child (h : Repeats k f g) (data : Value) :
    Repeats (k + 1) (f.child data) (g.child data) := by
  intro depth
  cases depth with
  | zero => rfl
  | succ depth => simpa using h depth

theorem data (h : Repeats k f g) : f.data = g.data := by
  simpa using (h 0).symm

theorem resolve (h : Repeats k f g) (p : Path) : f.resolve p = g.resolve (p.lift k) := by
  simp only [Frame.resolve, Path.lift, h p.depth]

theorem sameHead (h : Repeats k f g) (s : Scope) (p : Path) : SameHead s s p (p.lift k) f g where
  helper := by
    rw [Scope.helperAt?, Scope.helperAt?, Path.isSimple_lift]
    rfl
  missing := rfl
  written := rfl
  data := h.data
  value := h.resolve p

end Frame.Repeats

/-! ## Rendering with a frame in between -/

namespace Node

variable {s : Scope} {included : Node → Frame → Run String}

mutual

theorem visit_lift : ∀ (n : Node) {k : Nat} {f g : Frame}, n.inclusions = [] → f.Repeats k g →
    visit s included n f = visit s included (n.lift k) g
  | .program statements, _, _, _, hn, h => by
      rw [visit_program, lift, visit_program, visitAll_lift statements hn h]
  | .content _, _, _, _, _, _ => rfl
  | .comment _, _, _, _, _, _ => rfl
  | .insertion p params, _, _, _, hn, h =>
      visit_insertion_congr Run.compositional_eq (h.sameHead s p) (visitAll_lift params hn h)
  | .block p params body inverse closing inverted, _, _, _, hn, h => by
      simp only [inclusions, List.append_eq_nil_iff] at hn
      obtain ⟨⟨hparams, hbody⟩, hinverse⟩ := hn
      rw [lift]
      refine visit_block_congr Run.compositional_eq (h.sameHead s p)
        (visitAll_lift params hparams h) ?_ ?_ closing _ inverted
      · intro data
        rw [visit_lift body hbody (h.child data)]
      · intro data
        exact partOutput_lift inverse hinverse (h.child data)
  | .inclusion _ _, _, _, _, hn, _ => by simp [inclusions] at hn
  | .path p, _, _, _, _, h => by
      rw [visit_path, lift, visit_path, h.resolve p]
  | .literal _, _, _, _, _, _ => rfl
  | .foreign _, _, _, _, _, _ => rfl

theorem visitAll_lift : ∀ (ns : List Node) {k : Nat} {f g : Frame}, inclusionsIn ns = [] →
    f.Repeats k g → visitAll s included ns f = visitAll s included (liftAll k ns) g
  | [], _, _, _, _, _ => rfl
  | n :: ns, _, _, _, hns, h => by
      simp only [inclusionsIn, List.append_eq_nil_iff] at hns
      rw [visitAll_cons, liftAll, visitAll_cons, visit_lift n hns.1 h, visitAll_lift ns hns.2 h]

theorem partOutput_lift : ∀ (part : Option Node) {k : Nat} {f g : Frame},
    inclusionsInPart part = [] → f.Repeats k g →
      partOutput s included part f = partOutput s included (liftPart k part) g
  | none, _, _, _, _, _ => rfl
  | some n, _, _, _, hn, h => by
      rw [liftPart, partOutput, partOutput, visit_lift n hn h]

end

end Node

/-! ## The builtin helper that adds a frame -/

theorem Value.shape_ne_falsy {v : Value} (hnone : v ≠ .none) (hfalse : v ≠ .bool false) :
    v.shape ≠ .falsy := by
  unfold shape
  split
  · simp
  · simp_all
  · simp_all
  · split
    · simp
    · split
      · simp
      · simp

/-- What `if` does in a block, with both bodies at hand. -/
theorem Helper.run_ifTrue (bodies : Slot → Value → Run String) (this value : Value) :
    (ifTrue [.value this, .value value, .body .primary, .body .inverse]).run bodies =
      Value.text <$> bodies (if value.shape = .falsy then .inverse else .primary) this := by
  have hscript : ifTrue [.value this, .value value, .body .primary, .body .inverse] =
      Argument.apply (.body (if value.shape = .falsy then .inverse else .primary)) this := by
    show (if value.shape = .falsy then _ else _) = _
    split
    · rfl
    · rfl
  rw [hscript, Argument.apply, Run.run_map_script, Script.run_body]

namespace Node

variable {s : Scope} {included : Node → Frame → Run String} {f : Frame}

/-- A block that a helper serves, with one parameter. -/
theorem text_visit_block {p : Path} {h : Helper} {v body : Node} {value : Value}
    {inverse closing : Option Node} (hhelper : s.helperAt? p = .ok (some h))
    (hv : visit s included v f = pure { value := value }) :
    (·.text) <$> visit s included (.block p [v] body inverse closing false) f = (do
      let result ← (h.run [.value f.data, .value value, .body .primary, .body .inverse]).run
        (Block.bodies (fun data => (·.text) <$> visit s included body (f.child data))
          fun data => partOutput s included inverse (f.child data))
      Run.ofExcept result.output) := by
  have hpure : Run.ofExcept (.ok (some h)) = (pure (some h) : Run (Option Helper)) := rfl
  rw [visit_block, hhelper, hpure, visitAll_cons, hv, visitAll_nil]
  simp only [← bind_pure_comp, bind_assoc, pure_bind]
  show Block.ordinary s p.written (some h) ⟨f.data, value, []⟩ _ _ >>= _ = _
  rw [Block.ordinary_eq, Block.serving, pure_bind]
  simp only [List.map_cons, List.map_nil, String.join_cons, String.join_nil, String.empty_append,
    bind_pure, Block.Input.arguments]

/-- An expression has a value and no output. -/
theorem visit_expression {v : Node} {value : Value} (hv : v.isExpression = true)
    (hvalue : v.eval s f = pure value) : visit s included v f = pure { value := value } := by
  cases v with
  | path p =>
      have hresolve : Run.ofExcept (f.resolve p) = pure value := by
        rw [← hvalue, eval, visit_path, ← bind_pure_comp, bind_assoc]
        simp only [pure_bind, bind_pure]
      rw [visit_path, hresolve]
      rfl
  | literal text =>
      have hevents : (⟨[], .ok (.text text)⟩ : Run Value) = ⟨[], .ok value⟩ := hvalue
      simp only [Run.mk.injEq, Except.ok.injEq, true_and] at hevents
      rw [← hevents]
      rfl
  | _ => cases hv

/-- The path of a block that `if` serves. -/
def ifPath : Path where
  parts := ["if"]
  written := "if"

/-- A block of `if` with a value other than false and none renders its body in a frame with the data
of the frame around it. -/
theorem text_visit_if {v body : Node} {value : Value} {inverse closing : Option Node}
    (hif : s.helper? "if" = .ok (some { run := Helper.ifTrue })) (hv : v.isExpression = true)
    (hvalue : v.eval s f = pure value) (hnone : value ≠ .none) (hfalse : value ≠ .bool false) :
    (·.text) <$> visit s included (.block ifPath [v] body inverse closing false) f =
      (·.text) <$> visit s included body (f.child f.data) := by
  have hhelper : s.helperAt? ifPath = .ok (some { run := Helper.ifTrue }) := hif
  rw [text_visit_block hhelper (visit_expression hv hvalue), Helper.run_ifTrue,
    if_neg (Value.shape_ne_falsy hnone hfalse), Block.bodies]
  simp only [← bind_pure_comp, bind_assoc, pure_bind]
  refine bind_congr fun visited => ?_
  rfl

/-- **A frame in between.** A tree without partials does in a frame what its lifted tree does in a
frame inside that has the same data. Such a frame is the one that `if` makes for its body. -/
theorem render_lift (s : Scope) {n : Node} (hn : n.inclusions = []) (f : Frame) :
    n.render s f = (n.lift 0).render s (f.child f.data) ∧
      ∀ {v : Node} {value : Value} (closing : Option Node),
        s.helper? "if" = .ok (some { run := Helper.ifTrue }) → v.isExpression = true →
          v.eval s f = pure value → value ≠ .none → value ≠ .bool false →
            (Node.block ifPath [v] (n.lift 0) none closing false).render s f = n.render s f := by
  have hlift : n.render s f = (n.lift 0).render s (f.child f.data) := by
    rw [render_eq_visit, render_eq_visit, visit_lift n hn (Frame.Repeats.child_data f)]
  refine ⟨hlift, ?_⟩
  intro v value closing hif hv hvalue hnone hfalse
  rw [hlift, render_eq_visit, render_eq_visit]
  exact text_visit_if hif hv hvalue hnone hfalse

/-- A scope with the builtin helpers alone. -/
def builtinScope : Scope :=
  ({ helpers := Helper.builtins } : Registry).scope [] []

/-- Steps to parents at the top of a tree and in a section: one stays inside, two leave the tree. -/
def relatives : Node :=
  .program [.insertion ⟨["a"], 1, "../a"⟩ [],
    .block ⟨["x"], 0, "x"⟩ []
      (.program [.insertion ⟨["b"], 1, "../b"⟩ [], .insertion ⟨["c"], 2, "../../c"⟩ []]) none none
      false]

/-- Data for them. -/
def family : Frame where
  data := .mapping [(.text "x", .bool true), (.text "b", .text "B")]
  outer := [.mapping [(.text "a", .text "A"), (.text "c", .text "C")]]

theorem render_lift_relatives :
    relatives.inclusions = [] ∧
      relatives.lift 0 =
        .program [.insertion ⟨["a"], 2, "../a"⟩ [],
          .block ⟨["x"], 0, "x"⟩ []
            (.program [.insertion ⟨["b"], 1, "../b"⟩ [], .insertion ⟨["c"], 3, "../../c"⟩ []]) none
            none false] ∧
      (relatives.render builtinScope family).outcome.toOption = some "ABC" ∧
      relatives.render builtinScope family =
        (relatives.lift 0).render builtinScope (family.child family.data) ∧
      builtinScope.helper? "if" = .ok (some { run := Helper.ifTrue }) ∧
      (Node.literal "yes").isExpression = true ∧
      (Node.literal "yes").eval builtinScope family = pure (.text "yes") ∧
      Value.text "yes" ≠ .none ∧ Value.text "yes" ≠ .bool false ∧
      (Node.block ifPath [.literal "yes"] (relatives.lift 0) none none false).render builtinScope
        family = relatives.render builtinScope family := by
  have hnone : relatives.inclusions = [] := rfl
  have hif : builtinScope.helper? "if" = .ok (some { run := Helper.ifTrue }) := rfl
  obtain ⟨hlift, hblock⟩ := render_lift builtinScope hnone family
  have hvalue : (Node.literal "yes").eval builtinScope family = pure (.text "yes") := rfl
  exact ⟨hnone, rfl, by decide +kernel, hlift, hif, rfl, hvalue, nofun, nofun,
    hblock none hif rfl hvalue nofun nofun⟩

end Node

end Templating
