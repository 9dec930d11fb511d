import Templating.Proofs.Outcome

/-!
# The output of statements

`Node.output` is the text that statements add in a row. It is made from left to right
(`Node.output_append`), and a relation between runs that sequencing keeps leads from the parts of a
statement to the whole (`Node.visit_block_congr`, `Node.visit_congr`).
-/

namespace Templating

namespace Node

variable (s : Scope) (included : Node → Frame → Run String)

/-- The text of statements in a row. -/
def output (ns : List Node) (f : Frame) : Run String :=
  (fun visits => String.join (visits.map (·.text))) <$> visitAll s included ns f

/-- The text of a body of a block, if it is there. -/
def partOutput (part : Option Node) (f : Frame) : Run String :=
  match part with
  | none => pure ""
  | some n => (·.text) <$> n.visit s included f

variable {s included}

theorem visit_program (ns : List Node) (f : Frame) :
    visit s included (.program ns) f = (do
      let visits ← visitAll s included ns f
      return { text := String.join (visits.map (·.text)) }) :=
  rfl

theorem visit_insertion (p : Path) (params : List Node) (f : Frame) :
    visit s included (.insertion p params) f = (do
      let helper ← Run.ofExcept (s.helperAt? p)
      match helper with
      | some h =>
        let visits ← visitAll s included params f
        let arguments := f.data :: visits.map (·.value)
        let result ← (h.run (arguments.map .value)).run fun _ _ => pure ""
        let text ← Run.ofExcept result.output
        return { text := String.join (visits.map (·.text)) ++ text }
      | none =>
        let value ← Run.ofExcept (f.resolve p)
        let text ← Run.ofExcept value.output
        return { text := text }) :=
  rfl

theorem visit_inclusion (name : String) (f : Frame) :
    visit s included (.inclusion name none) f = (do
      let tree ← s.parsePartial name
      let text ← included tree f
      return { text := text }) :=
  rfl

theorem visit_inclusion_within (name : String) (context : Node) (f : Frame) :
    visit s included (.inclusion name (some context)) f = (do
      let tree ← s.parsePartial name
      let visit ← context.visit s included f
      let text ← included tree (f.child visit.value)
      return { text := visit.text ++ text }) :=
  rfl

theorem visit_path (p : Path) (f : Frame) :
    visit s included (.path p) f = (do
      let value ← Run.ofExcept (f.resolve p)
      return { value := value }) :=
  rfl

@[simp] theorem visitAll_nil (f : Frame) : visitAll s included [] f = pure [] := rfl

theorem visitAll_cons (n : Node) (ns : List Node) (f : Frame) :
    visitAll s included (n :: ns) f = (do
      let first ← n.visit s included f
      return first :: (← visitAll s included ns f)) :=
  rfl

theorem render_eq_visit (n : Node) (s : Scope) (f : Frame) :
    n.render s f = (·.text) <$> n.visit s (renderWithin s (nestingLimit - 1)) f :=
  rfl

theorem text_visit_program (ns : List Node) (f : Frame) :
    (·.text) <$> visit s included (.program ns) f = output s included ns f := by
  rw [visit_program, output, ← bind_pure_comp, ← bind_pure_comp, bind_assoc]
  rfl

@[simp] theorem output_nil (f : Frame) : output s included [] f = pure "" := rfl

theorem output_cons (n : Node) (ns : List Node) (f : Frame) :
    output s included (n :: ns) f = (do
      let first ← (·.text) <$> n.visit s included f
      let rest ← output s included ns f
      pure (first ++ rest)) := by
  simp only [output, visitAll_cons, ← bind_pure_comp, bind_assoc, pure_bind, List.map_cons,
    String.join_cons]

theorem output_append (ms ns : List Node) (f : Frame) :
    output s included (ms ++ ns) f = (do
      let first ← output s included ms f
      let rest ← output s included ns f
      pure (first ++ rest)) := by
  induction ms with
  | nil => simp only [List.nil_append, output_nil, pure_bind, String.empty_append, bind_pure]
  | cons m ms ih =>
      rw [List.cons_append, output_cons, output_cons, ih]
      simp only [bind_assoc, pure_bind, String.append_assoc]

end Node

/-! ## The steps of a block -/

namespace Block

/-- The helper that serves an ordinary block. -/
def serving (s : Scope) (name : String) : Option Helper → Run Helper
  | some h => pure h
  | none => do
    Run.report (.helperMissing name)
    Run.ofExcept s.missingHelper

/-- The bodies of a block as a script finds them. -/
def bodies (primary inverse : Value → Run String) : Slot → Value → Run String
  | .primary => primary
  | .inverse => inverse

theorem ordinary_eq (s : Scope) (name : String) (helper : Option Helper) (i : Input)
    (primary inverse : Value → Run String) :
    ordinary s name helper i primary inverse =
      serving s name helper >>= fun h => (h.run i.arguments).run (bodies primary inverse) := by
  have hbodies : bodies primary inverse = fun
      | .primary => primary
      | .inverse => inverse := by
    funext slot
    cases slot <;> rfl
  unfold ordinary serving
  rw [hbodies]
  cases helper with
  | some h => rfl
  | none => exact (bind_assoc _ _ _).symm

/-- What a block hands to its helper, by the values of its parameters. -/
def inputFor (p : Path) (f : Frame) (helper : Option Helper) : List Value → Run Input
  | value :: more => pure ⟨f.data, value, more⟩
  | [] =>
    match helper with
    | some _ => pure ⟨f.data, f.data, []⟩
    | none => do
      let value ← Run.ofExcept (f.resolve p)
      pure ⟨f.data, value, []⟩

/-- A block or an inverted section. -/
def served (s : Scope) (name : String) (inverted : Bool) (helper : Option Helper) (i : Input)
    (primary inverse : Value → Run String) : Run Value :=
  if inverted then Block.inverted s helper i primary
  else ordinary s name helper i primary inverse

end Block

theorem Node.visit_block (s : Scope) (included : Node → Frame → Run String) (p : Path)
    (params : List Node) (body : Node) (inverse closing : Option Node) (inverted : Bool)
    (f : Frame) :
    visit s included (.block p params body inverse closing inverted) f = (do
      let helper ← Run.ofExcept (s.helperAt? p)
      let visits ← visitAll s included params f
      let input ← Block.inputFor p f helper (visits.map (·.value))
      let result ← Block.served s p.written inverted helper input
        (fun data => (·.text) <$> visit s included body (f.child data))
        (fun data => partOutput s included inverse (f.child data))
      let text ← Run.ofExcept result.output
      return { text := String.join (visits.map (·.text)) ++ text }) := by
  cases inverse with
  | none | some _ =>
      show Run.ofExcept (s.helperAt? p) >>= _ = _
      refine bind_congr fun helper => bind_congr fun visits => ?_
      unfold Block.inputFor Block.served
      cases visits.map (·.value) with
      | cons value more => cases inverted <;> rfl
      | nil =>
          cases helper with
          | some h => cases inverted <;> rfl
          | none =>
              simp only [bind_assoc]
              cases inverted <;> rfl

/-! ## Scopes and heads that are served alike -/

section Alike

variable {s s' : Scope}

/-- Whether every name finds the same helper and the same partial in two scopes. -/
structure Scope.Alike (s s' : Scope) : Prop where
  helper (name : String) : s.helper? name = s'.helper? name
  source (name : String) : s.source? name = s'.source? name

namespace Scope.Alike

theorem refl (s : Scope) : Alike s s := ⟨fun _ => rfl, fun _ => rfl⟩

theorem helperAt (h : Alike s s') (p : Path) : s.helperAt? p = s'.helperAt? p := by
  rw [Scope.helperAt?, Scope.helperAt?, h.helper]

theorem missingHelper (h : Alike s s') : s.missingHelper = s'.missingHelper := by
  rw [Scope.missingHelper, Scope.missingHelper, h.helper]

theorem parsePartial (h : Alike s s') (name : String) :
    s.parsePartial name = s'.parsePartial name := by
  rw [Scope.parsePartial, Scope.parsePartial, h.source]

end Scope.Alike

/-- Whether the paths at the heads of two tags, each in a scope and a frame of its own, stand for
the same helper and the same value, with the same data around them. -/
structure SameHead (s s' : Scope) (p p' : Path) (f f' : Frame) : Prop where
  helper : s.helperAt? p = s'.helperAt? p'
  missing : s.missingHelper = s'.missingHelper
  written : p.written = p'.written
  data : f.data = f'.data
  value : f.resolve p = f'.resolve p'

theorem Scope.Alike.sameHead (h : Alike s s') (p : Path) (f : Frame) : SameHead s s' p p f f :=
  ⟨h.helperAt p, h.missingHelper, rfl, rfl, rfl⟩

namespace SameHead

variable {p p' : Path} {f f' : Frame}

theorem inputFor (h : SameHead s s' p p' f f') (helper : Option Helper) (values : List Value) :
    Block.inputFor p f helper values = Block.inputFor p' f' helper values := by
  cases values with
  | cons value more => simp only [Block.inputFor, h.data]
  | nil => simp only [Block.inputFor, h.data, h.value]

theorem serving (h : SameHead s s' p p' f f') (helper : Option Helper) :
    Block.serving s p.written helper = Block.serving s' p'.written helper := by
  cases helper with
  | some _ => rfl
  | none => rw [Block.serving, Block.serving, h.missing, h.written]

end SameHead

end Alike

/-! ## Runs that are related part by part -/

section Congruence

variable {R : {α : Type} → Run α → Run α → Prop} (hR : Run.Compositional R) {s s' : Scope}
  {p p' : Path} {f f' : Frame}

namespace Block

variable {primary primary' inverse inverse' : Value → Run String}

include hR

theorem ordinary_congr (hhead : SameHead s s' p p' f f') (helper : Option Helper) (i : Input)
    (hprimary : ∀ data, R (primary data) (primary' data))
    (hinverse : ∀ data, R (inverse data) (inverse' data)) :
    R (ordinary s p.written helper i primary inverse)
      (ordinary s' p'.written helper i primary' inverse') := by
  rw [ordinary_eq, ordinary_eq, hhead.serving]
  refine hR.bind_right _ fun serving => hR.script ?_ _
  rintro (_ | _) data
  · exact hprimary data
  · exact hinverse data

theorem asInversePart_congr (h : Helper) (i : Input)
    (hprimary : ∀ data, R (primary data) (primary' data)) :
    R (asInversePart h i primary) (asInversePart h i primary') := by
  refine hR.script ?_ _
  rintro (_ | _) data
  · exact hR.refl _
  · exact hprimary data

theorem inverted_congr (hmissing : s.missingHelper = s'.missingHelper) (helper : Option Helper)
    (i : Input) (hprimary : ∀ data, R (primary data) (primary' data)) :
    R (inverted s helper i primary) (inverted s' helper i primary') := by
  have hform : ∀ form : Script Value, R (form.run fun _ => primary) (form.run fun _ => primary') :=
    fun form => hR.script (fun _ data => hprimary data) form
  unfold inverted
  rw [hmissing]
  cases helper with
  | some h =>
      dsimp only
      cases h.inverse with
      | some form => exact hform _
      | none => exact asInversePart_congr hR h i hprimary
  | none =>
      refine hR.bind_right _ fun h => ?_
      cases h.inverse with
      | some form =>
          refine hR.bind_right _ fun isEmpty => ?_
          split
          · exact hform _
          · exact hR.refl _
      | none => exact asInversePart_congr hR h i hprimary

end Block

namespace Node

variable {included included' : Node → Frame → Run String}

include hR

/-- An insertion whose parameters are related. -/
theorem visit_insertion_congr {params params' : List Node} (hhead : SameHead s s' p p' f f')
    (hparams : R (visitAll s included params f) (visitAll s' included' params' f')) :
    R (visit s included (.insertion p params) f)
      (visit s' included' (.insertion p' params') f') := by
  rw [visit_insertion, visit_insertion, hhead.helper, hhead.data, hhead.value]
  refine hR.bind_right _ fun helper => ?_
  cases helper with
  | some h => exact hR.bind_left hparams _
  | none => exact hR.refl _

/-- A block whose parameters and bodies are related. -/
theorem visit_block_congr {params params' : List Node} {body body' : Node}
    {inverse inverse' : Option Node} (hhead : SameHead s s' p p' f f')
    (hparams : R (visitAll s included params f) (visitAll s' included' params' f'))
    (hbody : ∀ data, R ((·.text) <$> visit s included body (f.child data))
      ((·.text) <$> visit s' included' body' (f'.child data)))
    (hinverse : ∀ data, R (partOutput s included inverse (f.child data))
      (partOutput s' included' inverse' (f'.child data)))
    (closing closing' : Option Node) (inverted : Bool) :
    R (visit s included (.block p params body inverse closing inverted) f)
      (visit s' included' (.block p' params' body' inverse' closing' inverted) f') := by
  rw [visit_block, visit_block, hhead.helper]
  refine hR.bind_right _ fun helper => ?_
  refine hR.bind hparams fun visits => ?_
  rw [hhead.inputFor]
  refine hR.bind_right _ fun input => ?_
  refine hR.bind_left ?_ _
  unfold Block.served
  split
  · exact Block.inverted_congr hR hhead.missing helper input hbody
  · exact Block.ordinary_congr hR hhead helper input hbody hinverse

theorem output_cons_congr {m m' : Node} {ms ms' : List Node}
    (h : R ((·.text) <$> visit s included m f) ((·.text) <$> visit s' included' m' f'))
    (hrest : R (output s included ms f) (output s' included' ms' f')) :
    R (output s included (m :: ms) f) (output s' included' (m' :: ms') f') := by
  rw [output_cons, output_cons]
  exact hR.bind h fun _ => hR.bind_left hrest _

mutual

/-- In scopes that are alike, only partials tell two renderings of one tree apart. -/
theorem visit_congr (hs : s.Alike s') (hincluded : ∀ n f, R (included n f) (included' n f)) :
    ∀ (n : Node) (f : Frame), R (visit s included n f) (visit s' included' n f)
  | .program statements, f => by
      rw [visit_program, visit_program]
      exact hR.bind_left (visitAll_congr hs hincluded statements f) _
  | .content _, _ => hR.refl _
  | .comment _, _ => hR.refl _
  | .insertion p params, f =>
      visit_insertion_congr hR (hs.sameHead p f) (visitAll_congr hs hincluded params f)
  | .block p params body none closing inverted, f =>
      visit_block_congr hR (hs.sameHead p f) (visitAll_congr hs hincluded params f)
        (fun _ => hR.map (visit_congr hs hincluded body _) _) (fun _ => hR.refl _) closing closing
        inverted
  | .block p params body (some inverse) closing inverted, f =>
      visit_block_congr hR (hs.sameHead p f) (visitAll_congr hs hincluded params f)
        (fun _ => hR.map (visit_congr hs hincluded body _) _)
        (fun _ => hR.map (visit_congr hs hincluded inverse _) _) closing closing inverted
  | .inclusion name none, f => by
      rw [visit_inclusion, visit_inclusion, hs.parsePartial]
      exact hR.bind_right _ fun tree => hR.bind_left (hincluded tree f) _
  | .inclusion name (some context), f => by
      rw [visit_inclusion_within, visit_inclusion_within, hs.parsePartial]
      refine hR.bind_right _ fun tree => ?_
      exact hR.bind (visit_congr hs hincluded context f) fun v =>
        hR.bind_left (hincluded tree _) _
  | .path _, _ => hR.refl _
  | .literal _, _ => hR.refl _
  | .foreign _, _ => hR.refl _

theorem visitAll_congr (hs : s.Alike s') (hincluded : ∀ n f, R (included n f) (included' n f)) :
    ∀ (ns : List Node) (f : Frame), R (visitAll s included ns f) (visitAll s' included' ns f)
  | [], _ => hR.refl _
  | n :: ns, f => by
      rw [visitAll_cons, visitAll_cons]
      exact hR.bind (visit_congr hs hincluded n f) fun _ =>
        hR.bind_left (visitAll_congr hs hincluded ns f) _

end

theorem output_congr (hs : s.Alike s') (hincluded : ∀ n f, R (included n f) (included' n f))
    (ns : List Node) (f : Frame) : R (output s included ns f) (output s' included' ns f) :=
  hR.map (visitAll_congr hR hs hincluded ns f) _

end Node

end Congruence

end Templating
