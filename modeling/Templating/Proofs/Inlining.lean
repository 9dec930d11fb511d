import Templating.Proofs.Output
import Templating.Proofs.Spelling

/-!
# Partials in the place of their text

A partial without a context does what its statements do in its place, and a partial with a context
does what a block around them does whose helper renders its body with its first parameter
(`Inlines`). Partials are nested one deeper where they are included than where they are written out,
so the two renderings differ in what the limit of nesting does to them, and in nothing else.
-/

namespace Templating

open Run

/-- A helper that renders its body with its first parameter and hands on the text. It may do other
things with its bodies as long as that is what comes of it. -/
def Helper.HandsOn (h : Helper) : Prop :=
  ∀ (this value : Value) (bodies : Slot → Value → Run String),
    ((h.run [.value this, .value value, .body .primary, .body .inverse]).run bodies).outcome =
      (Value.text <$> bodies .primary value).outcome

/-- A helper that renders its body with its first parameter, and no other. -/
def Helper.within : Helper where
  run
    | [_, value, body, _] => body.apply value.data
    | args => .fail (.excessArguments "with" 4 4 args.length)

theorem Helper.handsOn_within : Helper.within.HandsOn := by
  intro this value bodies
  show (Script.run bodies (Value.text <$> Script.body .primary value)).outcome = _
  rw [run_map_script, Script.run_body]

/-- The second statements come of the first by writing out partials, at any places outside partials
and as many as one likes. -/
inductive Inlines (s : Scope) : List Node → List Node → Prop where
  | nil : Inlines s [] []
  | keep (n : Node) {ns ns' : List Node} (rest : Inlines s ns ns') : Inlines s (n :: ns) (n :: ns')
  | plain {name source : String} {body ns ns' : List Node}
      (hsource : s.source? name = some (.text source))
      (hparse : Node.ofTemplate source = .ok (.program body)) (rest : Inlines s ns ns') :
      Inlines s (.inclusion name none :: ns) (body ++ ns')
  | within {name source : String} {body ns ns' : List Node} {p q : Path} {h : Helper}
      {closing : Option Node} (hsource : s.source? name = some (.text source))
      (hparse : Node.ofTemplate source = .ok (.program body))
      (hhelper : s.helperAt? q = .ok (some h)) (hhands : h.HandsOn) (rest : Inlines s ns ns') :
      Inlines s (.inclusion name (some (.path p)) :: ns)
        (.block q [.path p] (.program body) none closing false :: ns')
  | block {p : Path} {params body body' ns ns' : List Node} {closing : Option Node}
      {inverted : Bool} (inside : Inlines s body body') (rest : Inlines s ns ns') :
      Inlines s (.block p params (.program body) none closing inverted :: ns)
        (.block p params (.program body') none closing inverted :: ns')
  | blockInverse {p : Path} {params body body' inverse inverse' ns ns' : List Node}
      {closing : Option Node} {inverted : Bool} (inside : Inlines s body body')
      (other : Inlines s inverse inverse') (rest : Inlines s ns ns') :
      Inlines s (.block p params (.program body) (some (.program inverse)) closing inverted :: ns)
        (.block p params (.program body') (some (.program inverse')) closing inverted :: ns')

/-! ## Parsing a partial -/

theorem outcome_parseTemplate (source : String) :
    (parseTemplate source).outcome = (Node.ofTemplate source).mapError .grammar :=
  rfl

theorem outcome_parseTemplate_eq_ok {source : String} {n : Node} :
    (parseTemplate source).outcome = .ok n ↔ Node.ofTemplate source = .ok n := by
  rw [outcome_parseTemplate]
  cases Node.ofTemplate source with
  | error e => exact ⟨nofun, nofun⟩
  | ok m => simp [Except.mapError]

/-- A template that is accepted is read without events. -/
theorem parseTemplate_eq_pure {source : String} {n : Node} (h : Node.ofTemplate source = .ok n) :
    parseTemplate source = pure n := by
  obtain ⟨⟨last, hlast, heof⟩, -⟩ := Node.ofTokens_eq_ok_iff.1 h
  have hhalted : (Scan.ofTemplate source).halted = false := by
    cases hhalted : (Scan.ofTemplate source).halted with
    | false => rfl
    | true => exact absurd heof (Scan.ne_eof_of_halted hhalted last (List.mem_of_getLast? hlast))
  have hscan : scanTemplate source = pure (Token.ofTemplate source) := by
    simp [scanTemplate, hhalted, Token.ofTemplate]
  rw [parseTemplate, hscan, pure_bind]
  unfold Node.ofTemplate at h
  rw [h]
  rfl

theorem Scope.parsePartial_eq_pure {s : Scope} {name source : String} {n : Node}
    (hsource : s.source? name = some (.text source)) (hparse : Node.ofTemplate source = .ok n) :
    s.parsePartial name = pure n := by
  rw [Scope.parsePartial, hsource]
  exact parseTemplate_eq_pure hparse

/-! ## What writing out does in one rendering -/

namespace Node

section Congruence

variable {R : {α : Type} → Run α → Run α → Prop} (hR : Congruence R) {s : Scope}
  {included included' : Node → Frame → Run String}

theorem text_visit_inclusion {name : String} {tree : Node} (htree : s.parsePartial name = pure tree)
    (f : Frame) :
    (·.text) <$> visit s included (.inclusion name none) f = included tree f := by
  rw [visit_inclusion, htree]
  simp only [← bind_pure_comp, bind_assoc, pure_bind, bind_pure]

theorem text_visit_inclusion_within {name : String} {tree : Node} {p : Path}
    (htree : s.parsePartial name = pure tree) (f : Frame) :
    (·.text) <$> visit s included (.inclusion name (some (.path p))) f = (do
      let value ← Run.ofExcept (f.resolve p)
      included tree (f.child value)) := by
  rw [visit_inclusion_within, htree, visit_path]
  simp only [← bind_pure_comp, bind_assoc, pure_bind, bind_pure, String.empty_append]

/-- A block whose helper hands on its body, up to events. -/
theorem outcome_visit_handsOn {p q : Path} {h : Helper} (hhelper : s.helperAt? q = .ok (some h))
    (hhands : h.HandsOn) (body : List Node) (closing : Option Node) (f : Frame) :
    ((·.text) <$> visit s included (.block q [.path p] (.program body) none closing false)
      f).outcome = (do
        let value ← Run.ofExcept (f.resolve p)
        output s included body (f.child value)).outcome := by
  have hfirst : (·.text) <$> visit s included
      (.block q [.path p] (.program body) none closing false) f = (do
        let value ← Run.ofExcept (f.resolve p)
        let result ← (h.run [.value f.data, .value value, .body .primary, .body .inverse]).run
          (Block.bodies (fun data => output s included body (f.child data)) fun _ => pure "")
        Run.ofExcept result.output) := by
    have hpure : Run.ofExcept (.ok (some h)) = (pure (some h) : Run (Option Helper)) := rfl
    rw [visit_block, hhelper, hpure, visitAll_cons, visit_path, visitAll_nil]
    simp only [text_visit_program]
    simp only [← bind_pure_comp, bind_assoc, pure_bind]
    refine bind_congr fun value => ?_
    show Block.ordinary s q.written (some h) ⟨f.data, value, []⟩ _ _ >>= _ = _
    rw [Block.ordinary_eq, Block.serving, pure_bind]
    refine bind_congr fun result => ?_
    simp only [List.map_cons, List.map_nil, String.join_cons, String.join_nil, String.empty_append,
      bind_pure]
  rw [hfirst, outcome_bind, outcome_bind]
  refine congrArg _ (funext fun value => ?_)
  rw [outcome_bind, hhands, ← bind_pure_comp, outcome_bind]
  change ((output s included body (f.child value)).outcome.bind _).bind _ = _
  cases (output s included body (f.child value)).outcome with
  | error e => rfl
  | ok text => rfl

include hR

theorem output_inlines_congr (hincluded : ∀ n f, R (included n f) (included' n f))
    (hopen : ∀ body f, R (included (.program body) f) (output s included' body f))
    {ns ns' : List Node} (h : Inlines s ns ns') (f : Frame) :
    R (output s included ns f) (output s included' ns' f) := by
  -- Along the relation; `hopen` is used where a partial is written out, and nowhere else.
  induction h generalizing f with
  | nil => exact hR.refl _
  | keep n _ ih =>
      exact output_cons_congr hR.toCompositional
        (hR.map (visit_congr hR.toCompositional (.refl s) hincluded n f) _) (ih f)
  | plain hsource hparse _ ih =>
      rw [output_cons, output_append,
        text_visit_inclusion (Scope.parsePartial_eq_pure hsource hparse)]
      exact hR.bind (hopen _ f) fun _ => hR.bind_left (ih f) _
  | @within name source body ns ns' p q h closing hsource hparse hhelper hhands _ ih =>
      refine output_cons_congr hR.toCompositional ?_ (ih f)
      rw [text_visit_inclusion_within (Scope.parsePartial_eq_pure hsource hparse)]
      refine hR.respects rfl (outcome_visit_handsOn hhelper hhands body closing f).symm ?_
      exact hR.bind_right _ fun value => hopen body _
  | @block p params _ _ _ _ closing inverted _ _ ihBody ih =>
      refine output_cons_congr hR.toCompositional (hR.map ?_ _) (ih f)
      refine visit_block_congr hR.toCompositional ((Scope.Alike.refl s).sameHead p f)
        (visitAll_congr hR.toCompositional (.refl s) hincluded params f) (fun data => ?_)
        (fun _ => hR.refl _) closing closing inverted
      rw [text_visit_program, text_visit_program]
      exact ihBody _
  | @blockInverse p params _ _ _ _ _ _ closing inverted _ _ _ ihBody ihOther ih =>
      refine output_cons_congr hR.toCompositional (hR.map ?_ _) (ih f)
      refine visit_block_congr hR.toCompositional ((Scope.Alike.refl s).sameHead p f)
        (visitAll_congr hR.toCompositional (.refl s) hincluded params f) (fun data => ?_)
        (fun data => ?_) closing closing inverted
      · rw [text_visit_program, text_visit_program]
        exact ihBody _
      · rw [partOutput, partOutput]
        rw [text_visit_program, text_visit_program]
        exact ihOther _

end Congruence

/-! ## The limit of nesting -/

variable {s : Scope}

theorem renderWithin_program (limit : Nat) (ns : List Node) (f : Frame) :
    (Node.program ns).renderWithin s (limit + 1) f = output s (renderWithin s limit) ns f :=
  text_visit_program ns f

/-- A larger limit changes nothing but that less is given up. -/
theorem renderWithin_below {limit limit' : Nat} (h : limit ≤ limit') (n : Node) (f : Frame) :
    Below (n.renderWithin s limit f) (n.renderWithin s limit' f) := by
  induction limit generalizing limit' n f with
  | zero => exact .inr rfl
  | succ limit ih =>
      cases limit' with
      | zero => omega
      | succ limit' =>
          refine congruence_below.map
            (visit_congr congruence_below.toCompositional (.refl s) (fun n f => ?_) n f) _
          exact ih (by omega) n f

/-- Writing out partials gives up nothing more. -/
theorem renderWithin_below_of_inlines {ns ns' : List Node} (h : Inlines s ns ns') (limit : Nat)
    (f : Frame) :
    Below ((Node.program ns).renderWithin s limit f)
      ((Node.program ns').renderWithin s limit f) := by
  cases limit with
  | zero => exact .inr rfl
  | succ limit =>
      rw [renderWithin_program, renderWithin_program]
      refine output_inlines_congr congruence_below (fun n f => Below.refl _) (fun body f => ?_) h f
      -- The statements of the partial are rendered one level further out than in it.
      cases limit with
      | zero => exact .inr rfl
      | succ limit =>
          rw [renderWithin_program]
          exact output_congr congruence_below.toCompositional (.refl s)
            (renderWithin_below (by omega)) body f

/-- Partials that are not written out need a limit larger by one. -/
theorem renderWithin_above_of_inlines {ns ns' : List Node} (h : Inlines s ns ns') (limit : Nat)
    (f : Frame) :
    Below ((Node.program ns').renderWithin s limit f)
      ((Node.program ns).renderWithin s (limit + 1) f) := by
  cases limit with
  | zero => exact .inr rfl
  | succ limit =>
      rw [renderWithin_program, renderWithin_program]
      refine output_inlines_congr congruence_above (fun n f => ?_) (fun body f => ?_) h f
      · exact renderWithin_below (by omega) n f
      · rw [renderWithin_program]
        exact Below.refl _

/-- A rendering ends with an outcome if it does so within some limit that it does not meet. -/
def Ends (s : Scope) (n : Node) (f : Frame) (outcome : Except Failure String) : Prop :=
  outcome ≠ .error .nestingLimit ∧ ∃ limit, (n.renderWithin s limit f).outcome = outcome

/-- A rendering ends with one outcome only. -/
theorem Ends.unique {n : Node} {f : Frame} {o o' : Except Failure String} (h : Ends s n f o)
    (h' : Ends s n f o') : o = o' := by
  obtain ⟨ho, limit, hlimit⟩ := h
  obtain ⟨ho', limit', hlimit'⟩ := h'
  rcases le_total limit limit' with hle | hle
  · exact ((renderWithin_below hle n f).outcome_eq hlimit ho).symm.trans hlimit'
  · exact hlimit.symm.trans ((renderWithin_below hle n f).outcome_eq hlimit' ho')

/-- **Writing out partials changes no output and no failure.** Where the partials are rendered
within the limit of nesting, so is what is written out. -/
theorem ends_iff_of_inlines {ns ns' : List Node} (h : Inlines s ns ns') (f : Frame) :
    (∀ outcome, Ends s (.program ns) f outcome ↔ Ends s (.program ns') f outcome) ∧
      Below ((Node.program ns).render s f) ((Node.program ns').render s f) := by
  refine ⟨fun outcome => ⟨?_, ?_⟩, renderWithin_below_of_inlines h nestingLimit f⟩
  · rintro ⟨ho, limit, hlimit⟩
    exact ⟨ho, limit, (renderWithin_below_of_inlines h limit f).outcome_eq hlimit ho⟩
  · rintro ⟨ho, limit, hlimit⟩
    exact ⟨ho, limit + 1, (renderWithin_above_of_inlines h limit f).outcome_eq hlimit ho⟩

/-- A scope with one partial, and one helper that hands on its body. -/
def greetingScope : Scope where
  helpers := ⟨[("with", .helper .within)], []⟩
  partials := ⟨[("p", .text "Hi \x7b\x7bx\x7d\x7d")], []⟩

/-- The tree of its partial. -/
def greeting : List Node :=
  [.content "Hi ", .insertion ⟨["x"], 0, "x"⟩ []]

/-- The partial in a block, and the partial with a context. -/
def greetings : List Node :=
  [.block ⟨["x"], 0, "x"⟩ [] (.program [.inclusion "p" none]) none none false,
    .inclusion "p" (some (.path ⟨["x"], 0, "x"⟩))]

/-- Both written out. -/
def greetingsInlined : List Node :=
  [.block ⟨["x"], 0, "x"⟩ [] (.program (greeting ++ [])) none none false,
    .block ⟨["with"], 0, "with"⟩ [.path ⟨["x"], 0, "x"⟩] (.program greeting) none none false]

theorem inlines_greetings : Inlines greetingScope greetings greetingsInlined := by
  have hsource : greetingScope.source? "p" = some (.text "Hi \x7b\x7bx\x7d\x7d") := rfl
  have hparse : ofTemplate "Hi \x7b\x7bx\x7d\x7d" = .ok (.program greeting) := by decide +kernel
  have hhelper : greetingScope.helperAt? ⟨["with"], 0, "with"⟩ = .ok (some .within) := rfl
  exact .block (.plain hsource hparse .nil)
    (.within hsource hparse hhelper Helper.handsOn_within .nil)

theorem ends_iff_greetings :
    Inlines greetingScope greetings greetingsInlined ∧
      (∀ outcome, Ends greetingScope (.program greetings) ⟨.none, []⟩ outcome ↔
        Ends greetingScope (.program greetingsInlined) ⟨.none, []⟩ outcome) ∧
      Below ((Node.program greetings).render greetingScope ⟨.none, []⟩)
        ((Node.program greetingsInlined).render greetingScope ⟨.none, []⟩) :=
  ⟨inlines_greetings, ends_iff_of_inlines inlines_greetings _⟩

end Node

end Templating
