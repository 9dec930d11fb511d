import Templating.Proofs.Members
import Templating.Proofs.Weakening

/-!
# Sections and inverted sections

A section that a builtin helper serves renders its body with some data in a row, or its inverse
part in the frame around it (`Choice`). Which of the two, the value of the section decides
(`Builtin.choose`), the same way for a section and for an inverted section, though the two are
served by different routes (`Node.text_visit_section`, `Node.text_visit_inverted`). So a section
with an inverse part is a section without one, followed by an inverted section
(`Node.renderWithin_section_split`).
-/

namespace Templating

/-! ## Scripts in sequence -/

namespace Run

variable {α β : Type}

/-- A script after a script is run after it, on the same bodies. -/
theorem run_bind_script (bodies : Slot → Value → Run String) (script : Script α)
    (next : α → Script β) :
    (script >>= next).run bodies = script.run bodies >>= fun a => (next a).run bodies := by
  induction script with
  | done a => rfl
  | fail e => rfl
  | call slot data rest ih =>
      show Script.run bodies (.call slot data fun r => rest r >>= next) = _
      simp only [Script.run, bind_assoc, ih]
      refine bind_congr fun outcome => ?_
      split
      · rfl
      · rfl

theorem run_ofExcept (bodies : Slot → Value → Run String) (x : Except Failure α) :
    (Script.ofExcept x).run bodies = ofExcept x := by
  cases x with
  | error e => rfl
  | ok a => rfl

/-- The texts of runs for each element, in order. -/
def joined (body : α → Run String) : List α → Run String
  | [] => pure ""
  | a :: rest => do
    let first ← body a
    let more ← joined body rest
    pure (first ++ more)

theorem joined_cons (body : α → Run String) (a : α) (rest : List α) :
    joined body (a :: rest) = (do
      let first ← body a
      let more ← joined body rest
      pure (first ++ more)) :=
  rfl

@[simp] theorem joined_singleton (body : α → Run String) (a : α) : joined body [a] = body a := by
  simp only [joined, pure_bind, String.append_empty, bind_pure]

@[simp] theorem joined_empty (items : List α) : joined (fun _ => pure "") items = pure "" := by
  induction items with
  | nil => rfl
  | cons a rest ih => simp only [joined, ih, pure_bind, String.append_empty]

end Run

/-! ## What a section does -/

/-- What a section does: its body with each of the data in a row, or its inverse part. -/
inductive Choice (α : Type) where
  | rows (data : List α)
  | inverse
deriving DecidableEq, Repr

namespace Choice

variable {α : Type}

/-- The body for each element of a sequence, and the inverse part for an empty one. -/
def ofItems (items : List α) : Choice α :=
  if items.isEmpty then .inverse else .rows items

/-- The same for a value, whose length is asked for first. -/
def ofSequence (v : Value) : Except Failure (Choice Value) :=
  v.length.map fun _ => .ofItems v.items

/-- Whether the inverse part is chosen. -/
def isInverse : Choice α → Bool
  | .rows _ => false
  | .inverse => true

theorem isInverse_ofItems (items : List α) :
    (ofItems items).isInverse = decide (items.length = 0) := by
  cases items with
  | nil | cons _ _ => rfl

/-- The text of a section, from what renders its body and its inverse part. -/
def output (primary : α → Run String) (inverse : Run String) : Choice α → Run String
  | .rows data => Run.joined primary data
  | .inverse => inverse

/-- Rendering the body alone and then the inverse part alone is rendering what is chosen. -/
theorem output_split (primary : α → Run String) (inverse : Run String) (c : Choice α) :
    (do
      let first ← c.output primary (pure "")
      let rest ← c.output (fun _ => pure "") inverse
      pure (first ++ rest)) = c.output primary inverse := by
  cases c with
  | rows data => simp only [output, Run.joined_empty, pure_bind, String.append_empty, bind_pure]
  | inverse => simp only [output, pure_bind, String.empty_append, bind_pure]

end Choice

/-- The value itself, or what calling it gives if it is a function. It is called once only. -/
def Value.called (v : Value) : Except Failure Value :=
  if v.shape = .callable then v.call else .ok v

/-- The builtin helpers of sections. -/
inductive Builtin where
  /-- The one for sections that name no helper. -/
  | missing
  | each
  | ifTrue
deriving DecidableEq, Repr

namespace Builtin

/-- The helper itself. -/
def helper : Builtin → Helper
  | missing => .builtinMissing
  | each => { run := Helper.each }
  | ifTrue => { run := Helper.ifTrue }

/-- What a section does by the shape of its value, once a callable value has been called. -/
def chooseByShape (this value : Value) : Except Failure (Choice Value) :=
  match value.shape with
  | .truth => .ok (.rows [this])
  | .falsy => .ok .inverse
  | .sequence => Choice.ofSequence value
  | .callable | .record => .ok (.rows [value])

/-- What a section does with its value, in a frame with the data `this`. -/
def choose (this value : Value) : Builtin → Except Failure (Choice Value)
  | missing => value.called >>= chooseByShape this
  | each => if value.isSequence then Choice.ofSequence value else .ok .inverse
  | ifTrue => .ok (if value.shape = .falsy then .inverse else .rows [this])

end Builtin

/-! ## What the helpers do -/

namespace Value

variable {v : Value}

theorem shape_eq_sequence_iff : v.shape = .sequence ↔ v.isSequence = true := by
  cases v with
  | bool b => cases b <;> simp [shape, isSequence]
  | _ => simp [shape, isSequence, isCallable]

end Value

section Scripts

open Run

variable (bodies : Slot → Value → Run String) (this value : Value)

/-- The arguments of a builtin helper in a block. -/
def Helper.BlockCall.inBlock : Helper.BlockCall where
  this := this
  context := value
  body := .body .primary
  inverse := some (.body .inverse)

theorem Argument.run_apply_body (slot : Slot) (data : Value) :
    (Argument.apply (.body slot) data).run bodies = Value.text <$> bodies slot data := by
  rw [Argument.apply, run_map_script, Script.run_body]

theorem Helper.run_callInverse :
    ((BlockCall.inBlock this value).callInverse this).run bodies =
      Value.text <$> bodies .inverse this :=
  Argument.run_apply_body bodies .inverse this

/-- The pieces of the body are texts, so that they can always be joined. -/
theorem Helper.run_callEach (index : Nat) (items : List Value) :
    (((BlockCall.inBlock this value).callEach items).run bodies >>= fun pieces =>
      ofExcept (joinFrom index pieces)) = joined (bodies .primary) items := by
  induction items generalizing index with
  | nil => rfl
  | cons item items ih =>
      have hstep : (BlockCall.inBlock this value).callEach (item :: items) = (do
          let first ← Argument.apply (.body .primary) item
          let rest ← (BlockCall.inBlock this value).callEach items
          pure (first :: rest)) := rfl
      have hjoin (s : String) (pieces : List Value) : joinFrom index (.text s :: pieces) =
          joinFrom (index + 1) pieces >>= fun more => .ok (s ++ more) := rfl
      rw [hstep, run_bind_script, Argument.run_apply_body, ← bind_pure_comp, joined,
        ← ih (index + 1)]
      simp only [run_bind_script, Script.run_pure, bind_assoc, pure_bind, hjoin, ofExcept_bind,
        ofExcept_ok]

/-- What is done with the length of a sequence is what is done with its elements. -/
theorem Helper.run_overItems {v : Value} (h : v.isSequence = true) :
    (overItems (BlockCall.inBlock this value) v).run bodies = (do
      let choice ← ofExcept (Choice.ofSequence v)
      Value.text <$> choice.output (bodies .primary) (bodies .inverse this)) := by
  rw [overItems, run_bind_script, run_ofExcept, Choice.ofSequence]
  rcases Value.length_of_elements (Value.elements?_of_isSequence h) with hlength | hlength
  · rw [hlength, Except.map, ofExcept_ok, ofExcept_ok, pure_bind, pure_bind, Choice.ofItems]
    by_cases hnone : v.items.length = 0
    · rw [if_pos hnone, if_pos (List.isEmpty_iff_length_eq_zero.2 hnone)]
      exact run_callInverse bodies this value
    · rw [if_neg hnone, if_neg (mt List.isEmpty_iff_length_eq_zero.1 hnone), run_bind_script,
        Choice.output, ← run_callEach bodies this value 0, ← bind_pure_comp, bind_assoc]
      refine bind_congr fun pieces => ?_
      rw [run_map_script, run_ofExcept, bind_pure_comp]
  · rw [hlength]
    rfl

/-- What `missing` does with a value that is not to be called any more. -/
def Helper.serveByShape (called : Value) : Script Value :=
  match called.shape with
  | .truth => Argument.apply (.body .primary) this
  | .falsy => (BlockCall.inBlock this value).callInverse this
  | .sequence => overItems (BlockCall.inBlock this value) called
  | .callable | .record => Argument.apply (.body .primary) called

theorem Helper.missing_eq :
    missing [.value this, .value value, .body .primary, .body .inverse] =
      Script.ofExcept value.called >>= serveByShape this value := by
  show (if value.shape = .callable then _ else _ : Script Value) = _
  unfold Value.called
  split
  · rfl
  · rfl

theorem Helper.run_serveByShape (called : Value) :
    (serveByShape this value called).run bodies = (do
      let choice ← ofExcept (Builtin.chooseByShape this called)
      Value.text <$> choice.output (bodies .primary) (bodies .inverse this)) := by
  unfold serveByShape Builtin.chooseByShape
  cases hshape : called.shape with
  | truth =>
      rw [Argument.run_apply_body, ofExcept_ok, pure_bind, Choice.output, joined_singleton]
  | falsy => exact run_callInverse bodies this value
  | sequence => exact run_overItems bodies this value (Value.shape_eq_sequence_iff.1 hshape)
  | callable | record =>
      rw [Argument.run_apply_body, ofExcept_ok, pure_bind, Choice.output, joined_singleton]

/-- In a block every builtin helper renders what it chooses. -/
theorem Builtin.run_helper (b : Builtin) :
    (b.helper.run [.value this, .value value, .body .primary, .body .inverse]).run bodies = (do
      let choice ← ofExcept (b.choose this value)
      Value.text <$> choice.output (bodies .primary) (bodies .inverse this)) := by
  cases b with
  | missing =>
      show (Helper.missing _).run bodies = _
      rw [Helper.missing_eq, run_bind_script, run_ofExcept, choose, ofExcept_bind, bind_assoc]
      refine bind_congr fun called => ?_
      exact Helper.run_serveByShape bodies this value called
  | each =>
      show (if value.isSequence then _ else _ : Script Value).run bodies = _
      rw [choose]
      split
      · exact Helper.run_overItems bodies this value (by assumption)
      · exact Helper.run_callInverse bodies this value
  | ifTrue =>
      rw [choose, ofExcept_ok, pure_bind]
      refine (Helper.run_ifTrue bodies this value).trans ?_
      split
      · rfl
      · rw [Choice.output, joined_singleton]

end Scripts

/-! ## Empty values -/

namespace Builtin

/-- The inverse part is chosen for empty values, whatever the data around the section. -/
theorem isEmpty_eq (this value : Value) :
    value.isEmpty = (missing.choose this value).map fun choice => choice.isInverse := by
  unfold Value.isEmpty choose Value.called
  extract_lets byShape
  have hbyShape (v : Value) :
      byShape v = (chooseByShape this v).map fun choice => choice.isInverse := by
    dsimp only [byShape, chooseByShape]
    cases hshape : v.shape with
    | sequence =>
        have hitems := Value.elements?_of_isSequence (Value.shape_eq_sequence_iff.1 hshape)
        rw [Choice.ofSequence]
        rcases Value.length_of_elements hitems with hlength | hlength
        · rw [hlength]
          exact congrArg Except.ok (Choice.isInverse_ofItems v.items).symm
        · rw [hlength]
          rfl
    | truth | falsy | callable | record => rfl
  split
  · cases value.call with
    | error e => rfl
    | ok v => exact hbyShape v
  · exact hbyShape value

end Builtin

/-! ## Sections in a tree -/

/-- The helper that the head of a section names, if a builtin one serves the section. -/
def Builtin.named? : Builtin → Option Helper
  | missing => none
  | b => some b.helper

/-- Whether a helper is the builtin for sections that name none, with its inverse form or as a mere
function. -/
structure Helper.ServesMissing (h : Helper) : Prop where
  run : h.run = Helper.missing
  inverse : h.inverse = some Helper.missingInverse ∨ h.inverse = none

theorem Helper.servesMissing_builtinMissing : Helper.builtinMissing.ServesMissing :=
  ⟨rfl, .inl rfl⟩

/-- Whether a builtin helper serves the sections with a head: the head names it, or the head names
no helper and the one for such sections is the builtin. -/
structure Scope.ServedBy (s : Scope) (p : Path) (b : Builtin) : Prop where
  named : s.helperAt? p = .ok b.named?
  missing : b = .missing → ∃ h, s.missingHelper = .ok h ∧ h.ServesMissing

/-- The value of an expression in a frame. Other nodes have none. -/
def Frame.value (f : Frame) : Node → Except Failure Value
  | .path p => f.resolve p
  | .literal text => .ok (.text text)
  | _ => .ok .none

/-- The value of a section: that of its parameter, or else that of its head, or the data of the
frame if the head names a helper. -/
def Builtin.subject (b : Builtin) (p : Path) (params : List Node) (f : Frame) :
    Except Failure Value :=
  match params with
  | v :: _ => f.value v
  | [] => if b = .missing then f.resolve p else .ok f.data

/-- A section that names no helper is reported. -/
def Builtin.announce (b : Builtin) (name : String) : Run Unit :=
  if b = .missing then Run.report (.helperMissing name) else pure ()

@[simp] theorem Builtin.outcome_announce (b : Builtin) (name : String) :
    (b.announce name).outcome = .ok () := by
  cases b with
  | missing | each | ifTrue => rfl

namespace Block

open Run

variable {s : Scope} {p : Path} {b : Builtin} (h : s.ServedBy p b) (this value : Value)
  (primary inverse : Value → Run String)

include h

theorem ordinary_of_servedBy :
    ordinary s p.written b.named? ⟨this, value, []⟩ primary inverse = (do
      b.announce p.written
      let choice ← ofExcept (b.choose this value)
      Value.text <$> choice.output primary (inverse this)) := by
  have hserving : ∃ helper : Helper, helper.run = b.helper.run ∧
      serving s p.written b.named? = (do
        b.announce p.written
        pure helper) := by
    cases b with
    | missing =>
        obtain ⟨helper, hmissing, hserves⟩ := h.missing rfl
        refine ⟨helper, hserves.run, ?_⟩
        show (do
          report _
          ofExcept s.missingHelper) = _
        rw [hmissing]
        rfl
    | each | ifTrue => exact ⟨_, rfl, rfl⟩
  obtain ⟨helper, hrun, hserving⟩ := hserving
  rw [ordinary_eq, hserving, bind_assoc]
  refine bind_congr fun _ => ?_
  rw [pure_bind, hrun]
  exact b.run_helper (bodies primary inverse) this value

theorem inverted_of_servedBy (body : Value → Run String) :
    inverted s b.named? ⟨this, value, []⟩ body = (do
      let choice ← ofExcept (b.choose this value)
      Value.text <$> choice.output (fun _ => pure "") (body this)) := by
  have hpart (helper : Helper) (hrun : helper.run = b.helper.run) :
      asInversePart helper ⟨this, value, []⟩ body = (do
        let choice ← ofExcept (b.choose this value)
        Value.text <$> choice.output (fun _ => pure "") (body this)) := by
    rw [asInversePart, hrun]
    exact b.run_helper _ this value
  cases b with
  | missing =>
      obtain ⟨helper, hmissing, hserves⟩ := h.missing rfl
      rw [Builtin.named?, inverted, hmissing, ofExcept_ok, pure_bind]
      rcases hserves.inverse with hform | hform
      · rw [hform]
        simp only
        rw [Builtin.isEmpty_eq this, ofExcept_map, bind_map_left]
        refine bind_congr fun choice => ?_
        cases choice with
        | rows data =>
            rw [Choice.output, joined_empty]
            rfl
        | inverse => exact Argument.run_apply_body (fun _ => body) .primary this
      · rw [hform]
        exact hpart helper hserves.run
  | each | ifTrue => exact hpart _ rfl

end Block

namespace Node

open Run

variable {s : Scope} {included : Node → Frame → Run String} {p : Path} {b : Builtin}
  {params : List Node}

/-- An expression has its value and no output. -/
theorem visit_eq_value {v : Node} (hv : v.isExpression = true) (f : Frame) :
    visit s included v f = (do
      let value ← Run.ofExcept (f.value v)
      pure { value := value }) := by
  cases v with
  | path p => rfl
  | literal text => rfl
  | _ => cases hv

/-- The value of a section is computed, and then the section is served. -/
theorem visit_served (h : s.ServedBy p b) (hparams : ∀ v ∈ params, v.isExpression = true)
    (hone : params.length ≤ 1) (body : Node) (inverse closing : Option Node) (inverted : Bool)
    (f : Frame) :
    (·.text) <$> visit s included (.block p params body inverse closing inverted) f = (do
      let value ← Run.ofExcept (b.subject p params f)
      let result ← Block.served s p.written inverted b.named? ⟨f.data, value, []⟩
        (fun data => (·.text) <$> visit s included body (f.child data))
        (fun data => partOutput s included inverse (f.child data))
      Run.ofExcept result.output) := by
  rw [visit_block, h.named, ofExcept_ok, pure_bind, ← bind_pure_comp, bind_assoc]
  match params, hone with
  | [], _ =>
      have hinput : Block.inputFor p f b.named? [] = (do
          let value ← Run.ofExcept (b.subject p [] f)
          pure ⟨f.data, value, []⟩) := by
        cases b with
        | missing | each | ifTrue => rfl
      rw [visitAll_nil, pure_bind, List.map_nil, hinput]
      simp only [bind_assoc, pure_bind, List.map_nil, String.join_nil, String.empty_append,
        bind_pure]
  | [v], _ =>
      rw [visitAll_cons, visitAll_nil, visit_eq_value (hparams v (by simp))]
      simp only [bind_assoc, pure_bind, Block.inputFor, List.map_cons, List.map_nil,
        String.join_cons, String.join_nil, String.empty_append, bind_pure]
      rfl

/-- A text that is put into the output is the output. -/
theorem output_of_text {α : Type} (r : Run α) (g : α → Run String) :
    (do
      let a ← r
      let result ← Value.text <$> g a
      Run.ofExcept result.output) = r >>= g := by
  refine bind_congr fun a => ?_
  rw [← bind_pure_comp, bind_assoc]
  exact bind_pure _

theorem text_visit_section (h : s.ServedBy p b) (hparams : ∀ v ∈ params, v.isExpression = true)
    (hone : params.length ≤ 1) (body : Node) (inverse closing : Option Node) (f : Frame) :
    (·.text) <$> visit s included (.block p params body inverse closing false) f = (do
      let value ← Run.ofExcept (b.subject p params f)
      b.announce p.written
      let choice ← Run.ofExcept (b.choose f.data value)
      choice.output (fun data => (·.text) <$> visit s included body (f.child data))
        (partOutput s included inverse (f.child f.data))) := by
  rw [visit_served h hparams hone]
  refine bind_congr fun value => ?_
  show Block.ordinary s p.written b.named? _ _ _ >>= _ = _
  rw [Block.ordinary_of_servedBy h, bind_assoc]
  refine bind_congr fun _ => ?_
  rw [bind_assoc]
  exact output_of_text _ _

theorem text_visit_inverted (h : s.ServedBy p b) (hparams : ∀ v ∈ params, v.isExpression = true)
    (hone : params.length ≤ 1) (body : Node) (inverse closing : Option Node) (f : Frame) :
    (·.text) <$> visit s included (.block p params body inverse closing true) f = (do
      let value ← Run.ofExcept (b.subject p params f)
      let choice ← Run.ofExcept (b.choose f.data value)
      choice.output (fun _ => pure "")
        ((·.text) <$> visit s included body (f.child f.data))) := by
  rw [visit_served h hparams hone]
  refine bind_congr fun value => ?_
  show Block.inverted s b.named? _ _ >>= _ = _
  rw [Block.inverted_of_servedBy h, bind_assoc]
  exact output_of_text _ _

/-! ## Sections without and with an inverse part -/

/-- A section and the inverted section after it compute one value and choose alike. -/
theorem visit_section_split (h : s.ServedBy p b) (hparams : ∀ v ∈ params, v.isExpression = true)
    (hone : params.length ≤ 1) (body other : Node) (closing closing' closing'' : Option Node)
    (f : Frame) :
    (·.text) <$> visit s included (.block p params body (some other) closing false) f = (do
      let first ← (·.text) <$> visit s included (.block p params body none closing' false) f
      let rest ← (·.text) <$> visit s included (.block p params other none closing'' true) f
      pure (first ++ rest)) := by
  rw [text_visit_section h hparams hone, text_visit_section h hparams hone,
    text_visit_inverted h hparams hone]
  cases b.subject p params f with
  | error e => rfl
  | ok value =>
      simp only [ofExcept_ok, pure_bind, bind_assoc]
      refine bind_congr fun _ => ?_
      cases b.choose f.data value with
      | error e => rfl
      | ok choice =>
          simp only [ofExcept_ok, pure_bind]
          exact (choice.output_split _ _).symm

/-- **Sections and inverted sections complement each other.** Where a builtin helper serves a
section with at most one parameter, the section with an inverse part does what the section without
one does, followed by the inverted section with the inverse part as its body. -/
theorem renderWithin_section_split (h : s.ServedBy p b)
    (hparams : ∀ v ∈ params, v.isExpression = true) (hone : params.length ≤ 1)
    (body other : Node) (closing closing' closing'' : Option Node) (before after : List Node)
    (limit : Nat) (f : Frame) :
    (Node.program (before ++ .block p params body (some other) closing false ::
      after)).renderWithin s limit f =
    (Node.program (before ++ .block p params body none closing' false ::
      .block p params other none closing'' true :: after)).renderWithin s limit f := by
  cases limit with
  | zero => rfl
  | succ limit =>
      rw [renderWithin, renderWithin, text_visit_program, text_visit_program, output_append,
        output_append]
      refine bind_congr fun first => ?_
      rw [output_cons, output_cons, output_cons,
        visit_section_split h hparams hone body other closing closing' closing'']
      simp only [bind_assoc, pure_bind, String.append_assoc]

/-- The head of a section that names no helper. -/
def guestsPath : Path where
  parts := ["guests"]
  written := "guests"

/-- Data whose guests are a function that gives an empty list. -/
def emptyHouse : Frame where
  data := .mapping [(.text "guests", .function (.list []))]

theorem renderWithin_section_split_guests :
    builtinScope.ServedBy guestsPath .missing ∧
      (∀ v ∈ [Node.path guestsPath], v.isExpression = true) ∧ [Node.path guestsPath].length ≤ 1 ∧
      (Node.program ([.content "at home: "] ++ .block guestsPath [.path guestsPath]
        (.program [.insertion ⟨[], 0, "this"⟩ []]) (some (.program [.content "nobody"])) none
          false :: [])).renderWithin builtinScope 1 emptyHouse =
      (Node.program ([.content "at home: "] ++ .block guestsPath [.path guestsPath]
        (.program [.insertion ⟨[], 0, "this"⟩ []]) none none false ::
          .block guestsPath [.path guestsPath] (.program [.content "nobody"]) none none true ::
            [])).renderWithin builtinScope 1 emptyHouse := by
  have hserved : builtinScope.ServedBy guestsPath .missing :=
    ⟨rfl, fun _ => ⟨_, rfl, Helper.servesMissing_builtinMissing⟩⟩
  have hparams : ∀ v ∈ [Node.path guestsPath], v.isExpression = true := by simp [isExpression]
  exact ⟨hserved, hparams, by decide,
    renderWithin_section_split hserved hparams (by decide) _ _ none none none _ _ _ _⟩

end Node

end Templating
