import Templating.Proofs.Outline

/-!
# Where values come from

Every value that a template handles is nothing, a literal of the template, or at a place in the data
(`Origin`); which of these, the outline of plain data decides. So a frame can be put together from
origins in place of data (`Sketch`), and paths are resolved and sections decided in it as in the
frame itself (`Sketch.resolve_frame`, `Sketch.choose_frame`). An output is made of pieces: texts of
the template and places in the data (`Run.Shows`).
-/

namespace Templating

/-! ## Pieces of an output -/

/-- A piece of an output. -/
inductive Piece where
  /-- A text of the template. -/
  | fixed (text : String)
  /-- The value at a place in the data. -/
  | value (steps : List Step)
deriving DecidableEq, Repr

namespace Piece

variable {root : Value}

/-- The text of a piece of the output for some data. -/
def text? (root : Value) : Piece → Option String
  | fixed text => some text
  | value steps => (root.reach steps).bind (·.output.toOption)

/-- The output for some data that pieces make up. There is none if a place of a piece is not in the
data. -/
def assemble (root : Value) (ps : List Piece) : Option String :=
  (ps.mapM (text? root)).map String.join

theorem assemble_append {ps qs : List Piece} {first rest : String}
    (hps : assemble root ps = some first) (hqs : assemble root qs = some rest) :
    assemble root (ps ++ qs) = some (first ++ rest) := by
  obtain ⟨texts, htexts, rfl⟩ := Option.map_eq_some_iff.1 hps
  obtain ⟨more, hmore, rfl⟩ := Option.map_eq_some_iff.1 hqs
  rw [assemble, List.mapM_append, htexts, hmore]
  exact congrArg some String.join_append

end Piece

/-- Whether a run ends with the text that pieces make up. -/
def Run.Shows (root : Value) (r : Run String) (ps : List Piece) : Prop :=
  ∃ text, r.outcome = .ok text ∧ Piece.assemble root ps = some text

namespace Run.Shows

variable {root : Value} {r : Run String} {ps qs : List Piece}

theorem empty : Shows root (pure "") [] := ⟨"", rfl, rfl⟩

theorem append {r' : Run String} (h : Shows root r ps) (h' : Shows root r' qs) :
    Shows root (do
      let first ← r
      let rest ← r'
      pure (first ++ rest)) (ps ++ qs) := by
  obtain ⟨first, hfirst, hps⟩ := h
  obtain ⟨rest, hrest, hqs⟩ := h'
  refine ⟨first ++ rest, ?_, Piece.assemble_append hps hqs⟩
  rw [outcome_bind, hfirst]
  show (r' >>= fun rest => pure (first ++ rest)).outcome = _
  rw [outcome_bind, hrest]
  rfl

/-- Events come before. -/
theorem after (e : Run Unit) (he : e.outcome = .ok ()) (h : Shows root r ps) :
    Shows root (do
      e
      r) ps := by
  obtain ⟨text, htext, hps⟩ := h
  refine ⟨text, ?_, hps⟩
  rw [outcome_bind, he]
  exact htext

theorem joined {α β : Type} {body : β → Run String} {g : α → β} {f : α → List Piece}
    (h : ∀ a, Shows root (body (g a)) (f a)) (items : List α) :
    Shows root (Run.joined body (items.map g)) (items.flatMap f) := by
  induction items with
  | nil => exact empty
  | cons a items ih =>
      rw [List.map_cons, Run.joined_cons, List.flatMap_cons]
      exact (h a).append ih

end Run.Shows

namespace Choice

variable {α β : Type}

/-- The same choice, with other data in the rows. -/
def map (f : α → β) : Choice α → Choice β
  | rows data => .rows (data.map f)
  | inverse => .inverse

theorem map_ofItems (f : α → β) (items : List α) :
    (ofItems items).map f = ofItems (items.map f) := by
  cases items with
  | nil => rfl
  | cons _ _ => rfl

/-- The data of the rows. -/
def data : Choice α → List α
  | rows data => data
  | .inverse => []

/-- The pieces of a section, from those of its body and its inverse part. -/
def pieces (primary : α → List Piece) (inverse : List Piece) : Choice α → List Piece
  | rows data => data.flatMap primary
  | .inverse => inverse

theorem mem_pieces {f : α → List Piece} {qs : List Piece} {q : Piece} {c : Choice α}
    (h : q ∈ c.pieces f qs) : (∃ a ∈ c.data, q ∈ f a) ∨ q ∈ qs := by
  cases c with
  | rows data => exact .inl (List.mem_flatMap.1 h)
  | inverse => exact .inr h

theorem shows_output {root : Value} {primary : β → Run String} {inverse : Run String}
    {f : α → List Piece} {qs : List Piece} (g : α → β)
    (hprimary : ∀ a, Run.Shows root (primary (g a)) (f a))
    (hinverse : Run.Shows root inverse qs) (c : Choice α) :
    Run.Shows root ((c.map g).output primary inverse) (c.pieces f qs) := by
  cases c with
  | rows data => exact Run.Shows.joined hprimary data
  | inverse => exact hinverse

end Choice

/-! ## Origins -/

/-- Where a value comes from that a template handles. -/
inductive Origin where
  /-- There is none. -/
  | nothing
  /-- A literal of the template. -/
  | literal (text : String)
  /-- A place in the data, where something may be or not. -/
  | place (steps : List Step)
deriving DecidableEq, Repr

namespace Origin

variable (root : Value) (outline : List Step → Option Kind)

/-- The value that comes from there. -/
def value : Origin → Value
  | nothing => .none
  | literal text => .text text
  | place steps => (root.reach steps).getD .none

/-- The kind of that value. -/
def kind : Origin → Kind
  | nothing => .nothing
  | literal _ => .leaf
  | place steps => (outline steps).getD .nothing

/-- What is one step further inside. -/
def next (step : Step) : Origin → Origin
  | place steps => .place (steps ++ [step])
  | _ => .nothing

/-- The member with a name. -/
def member (o : Origin) (name : String) : Origin :=
  match (o.kind outline).step? name with
  | some step => o.next step
  | none => .nothing

/-- What is reached by following names from member to member. -/
def follow (o : Origin) (names : List String) : Origin :=
  names.foldl (member outline) o

/-- The elements of a list. -/
def elements (o : Origin) : List Origin :=
  match o.kind outline with
  | .list length => (List.range length).map fun i => o.next (.element i)
  | _ => []

/-- The pieces of an output of the value. -/
def pieces : Origin → List Piece
  | nothing => []
  | literal text => [.fixed text]
  | place steps => if (outline steps).isSome then [.value steps] else []

variable {root}

@[simp] theorem kind_value (o : Origin) : (o.value root).kind = o.kind root.outline := by
  cases o with
  | nothing | literal _ => rfl
  | place steps =>
      rw [value, kind, Value.outline]
      cases root.reach steps with
      | none => rfl
      | some v => rfl

theorem value_next (o : Origin) (step : Step) :
    (o.next step).value root = ((o.value root).at? step).getD .none := by
  cases o with
  | nothing | literal _ => rfl
  | place steps =>
      rw [next, value, value, Value.reach_concat]
      cases root.reach steps with
      | none => rfl
      | some v => rfl

section Plain

variable (hroot : root.isPlain = true)

include hroot

theorem isPlain_value (o : Origin) : (o.value root).isPlain = true := by
  cases o with
  | nothing | literal _ => rfl
  | place steps =>
      rw [value]
      cases h : root.reach steps with
      | none => rfl
      | some v => exact Value.isPlain_of_reach hroot h

theorem shape_value (o : Origin) : (o.value root).shape = (o.kind root.outline).shape := by
  rw [Value.shape_eq_of_isPlain (o.isPlain_value hroot), kind_value]

theorem value_member (o : Origin) {name : String} (hname : Value.IsMemberName name) :
    (o.value root).member name = .ok ((o.member root.outline name).value root) := by
  rw [Value.member_eq (o.isPlain_value hroot) hname, kind_value, member]
  cases (o.kind root.outline).step? name with
  | none => rfl
  | some step => rw [value_next, Option.bind_some]

theorem value_follow (o : Origin) {names : List String}
    (hnames : ∀ name ∈ names, Value.IsMemberName name) :
    (o.value root).follow names = .ok ((o.follow root.outline names).value root) := by
  induction names generalizing o with
  | nil => rfl
  | cons name names ih =>
      obtain ⟨hname, hnames⟩ := List.forall_mem_cons.1 hnames
      rw [Value.follow, o.value_member hroot hname]
      exact ih _ hnames

theorem items_value (o : Origin) :
    (o.value root).items = (o.elements root.outline).map (value root) := by
  have hnext (i : Nat) : (o.next (.element i)).value root =
      ((o.value root).at? (.element i)).getD .none := o.value_next _
  unfold elements
  rw [← kind_value]
  have hplain := o.isPlain_value hroot
  cases hv : o.value root with
  | list items =>
      refine List.ext_getElem (by simp [Value.kind, Value.items, Value.isSequence,
        Value.elements?]) fun i hi hi' => ?_
      have hlt : i < items.length := hi
      have hitem : (Value.list items).at? (.element i) = some items[i] :=
        List.getElem?_eq_getElem hlt
      simp only [Value.kind, List.getElem_map, List.getElem_range, hnext, hv, hitem]
      rfl
  | none | bool _ | int _ | text _ | mapping _ => rfl
  | _ =>
      rw [hv] at hplain
      cases hplain

/-- The output of a value is the piece that stands for it. -/
theorem shows_output (o : Origin) :
    Run.Shows root (Run.ofExcept (o.value root).output) (o.pieces root.outline) := by
  obtain ⟨text, htext⟩ := Value.output_of_isPlain (o.isPlain_value hroot)
  refine ⟨text, htext, ?_⟩
  cases o with
  | nothing | literal _ =>
      cases htext
      rfl
  | place steps =>
      rw [value] at htext
      rw [pieces, Value.outline, Option.isSome_map]
      cases h : root.reach steps with
      | none =>
          rw [h] at htext
          cases htext
          rfl
      | some v =>
          rw [h] at htext
          have hpiece : Piece.text? root (.value steps) = some text := by
            rw [Piece.text?, h, Option.bind_some]
            exact congrArg Except.toOption htext
          simp [Piece.assemble, hpiece]

end Plain

end Origin

/-! ## Frames of origins -/

/-- A frame with the origins of data in place of the data. -/
structure Sketch where
  data : Origin
  outer : List Origin := []

namespace Sketch

/-- A sketch of the outermost frame, with all of the data. -/
def ofRoot : Sketch where
  data := .place []

/-- The frame for some data. -/
def frame (root : Value) (k : Sketch) : Frame where
  data := k.data.value root
  outer := k.outer.map (·.value root)

/-- A sketch of a frame inside this one. -/
def child (k : Sketch) (data : Origin) : Sketch where
  data := data
  outer := k.data :: k.outer

variable (outline : List Step → Option Kind)

/-- The origin of the value of a path. -/
def resolve (k : Sketch) (p : Path) : Origin :=
  match (k.data :: k.outer)[p.depth]? with
  | none => .nothing
  | some o => o.follow outline p.parts

/-- The origin of the value of an expression. -/
def value (k : Sketch) : Node → Origin
  | .path p => k.resolve outline p
  | .literal text => .literal text
  | _ => .nothing

/-- The origin of the value of a section. -/
def subject (k : Sketch) (b : Builtin) (p : Path) (params : List Node) : Origin :=
  match params with
  | v :: _ => k.value outline v
  | [] => if b = .missing then k.resolve outline p else k.data

/-- What a section does with a value from `o`. -/
def choose (k : Sketch) (o : Origin) : Builtin → Choice Origin
  | .missing =>
    match (o.kind outline).shape with
    | .truth => .rows [k.data]
    | .falsy => .inverse
    | .sequence => .ofItems (o.elements outline)
    | .callable | .record => .rows [o]
  | .each =>
    if (o.kind outline).shape = .sequence then .ofItems (o.elements outline) else .inverse
  | .ifTrue => if (o.kind outline).shape = .falsy then .inverse else .rows [k.data]

end Sketch

/-- Whether the names of a path are those of members, and no attributes. -/
def Path.NamesMembers (p : Path) : Prop :=
  ∀ name ∈ p.parts, Value.IsMemberName name

instance : DecidablePred Path.NamesMembers := fun p =>
  inferInstanceAs (Decidable (∀ name ∈ p.parts, Value.IsMemberName name))

/-- Whether a node is a literal, or a path to members. -/
def Node.NamesMembers : Node → Prop
  | .path p => p.NamesMembers
  | .literal _ => True
  | _ => False

theorem Node.NamesMembers.isExpression {v : Node} (h : v.NamesMembers) : v.isExpression = true := by
  cases v with
  | path _ | literal _ => rfl
  | _ => exact h.elim

namespace Sketch

variable {root : Value} (hroot : root.isPlain = true) (k : Sketch)

include hroot

theorem resolve_frame {p : Path} (hp : p.NamesMembers) :
    (k.frame root).resolve p = .ok ((k.resolve root.outline p).value root) := by
  have hdata : (k.frame root).dataAt? p.depth =
      ((k.data :: k.outer)[p.depth]?).map (·.value root) := by
    rw [← List.getElem?_map]
    rfl
  rw [Frame.resolve, hdata, resolve]
  cases (k.data :: k.outer)[p.depth]? with
  | none => rfl
  | some o => exact o.value_follow hroot hp

theorem value_frame {v : Node} (hv : v.NamesMembers) :
    (k.frame root).value v = .ok ((k.value root.outline v).value root) := by
  cases v with
  | path p => exact k.resolve_frame hroot hv
  | literal text => rfl
  | _ => exact hv.elim

theorem subject_frame (b : Builtin) {p : Path} {params : List Node} (hp : p.NamesMembers)
    (hparams : ∀ v ∈ params, v.NamesMembers) :
    b.subject p params (k.frame root) =
      .ok ((k.subject root.outline b p params).value root) := by
  cases params with
  | cons v _ => exact k.value_frame hroot (hparams v List.mem_cons_self)
  | nil =>
      rw [Builtin.subject, subject]
      split
      · exact k.resolve_frame hroot hp
      · rfl

theorem choose_frame (o : Origin) (b : Builtin) :
    b.choose (k.frame root).data (o.value root) =
      .ok ((k.choose root.outline o b).map (·.value root)) := by
  have hshape := o.shape_value hroot
  have hitems (h : (o.value root).shape = .sequence) : Choice.ofSequence (o.value root) =
      .ok ((Choice.ofItems (o.elements root.outline)).map (·.value root)) := by
    rw [Value.ofSequence_of_isPlain (o.isPlain_value hroot) h, Choice.map_ofItems,
      o.items_value hroot]
  cases b with
  | missing =>
      have hnone : (o.value root).shape ≠ .callable := by
        rw [hshape]
        cases o.kind root.outline with
        | truth b => cases b <;> nofun
        | _ => nofun
      rw [Builtin.choose, Value.called, if_neg hnone]
      show Builtin.chooseByShape _ _ = _
      rw [Builtin.chooseByShape, choose, hshape]
      rw [hshape] at hitems
      cases h : (o.kind root.outline).shape with
      | sequence => exact hitems h
      | truth | falsy | callable | record => rfl
  | each =>
      have hsequence : (o.value root).isSequence = decide ((o.value root).shape = .sequence) := by
        rw [Bool.eq_iff_iff, decide_eq_true_iff, Value.shape_eq_sequence_iff]
      rw [Builtin.choose, choose, hsequence, hshape]
      rw [hshape] at hitems
      by_cases h : (o.kind root.outline).shape = .sequence
      · simp [h, hitems h]
      · simp [h, Choice.map]
  | ifTrue =>
      rw [Builtin.choose, choose, hshape]
      split
      · rfl
      · rfl

end Sketch

end Templating
