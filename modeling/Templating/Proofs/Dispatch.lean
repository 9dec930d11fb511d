import Templating.Proofs.Inverted

/-!
# Dispatch by name and by value

A section whose head names a builtin helper hands its parameter to that helper; a section whose head
is the value itself is served by the helper for sections that name none. The helpers decide by rules
of their own: `each` has no rows for a text, and for `if` a list is as good as true. On the values
where they agree (`Builtin.Coincides`) the two sections end alike, inverted or not
(`Node.outcome_renderWithin_dispatch`).
-/

namespace Templating

open Run

/-! ## Where the rules agree -/

/-- The values for which a builtin helper decides like the one for sections that name none. -/
def Builtin.Coincides (v : Value) : Builtin → Prop
  | missing => True
  | each => v.isSequence = true ∨ v = .none ∨ v = .bool false
  | ifTrue => v = .none ∨ ∃ b, v = .bool b

/-- Only false and no value count as such. -/
theorem Value.shape_eq_falsy_iff {v : Value} : v.shape = .falsy ↔ v = .none ∨ v = .bool false := by
  cases v with
  | bool b => cases b <;> simp [shape]
  | _ => simp [shape, isSequence, isCallable]

namespace Builtin

/-- A sequence is not called, even if it can be. -/
theorem called_of_isSequence {v : Value} (h : v.isSequence = true) : v.called = .ok v := by
  have hshape := Value.shape_eq_sequence_iff.2 h
  rw [Value.called, hshape]
  rfl

/-- Each element of a sequence is a row, whichever helper decides. -/
theorem choose_missing_of_isSequence (this : Value) {v : Value} (h : v.isSequence = true) :
    missing.choose this v = Choice.ofSequence v := by
  rw [choose, called_of_isSequence h]
  show chooseByShape this v = _
  rw [chooseByShape, Value.shape_eq_sequence_iff.2 h]

/-- On these values the helpers choose the same rows, or both the inverse part. -/
theorem choose_eq_of_coincides (this : Value) {v : Value} {b : Builtin} (h : b.Coincides v) :
    b.choose this v = missing.choose this v := by
  cases b with
  | missing => rfl
  | each =>
      rcases h with hsequence | rfl | rfl
      · rw [choose_missing_of_isSequence this hsequence, choose, if_pos hsequence]
      · rfl
      · rfl
  | ifTrue =>
      rcases h with rfl | ⟨truth, rfl⟩
      · rfl
      · cases truth with
        | true | false => rfl

/-- For a value that is not called, these are the only ones on which `each` agrees: true and records
have rows without it. -/
theorem choose_each_eq_iff {this v : Value} (h : v.shape ≠ .callable) :
    each.choose this v = missing.choose this v ↔ each.Coincides v := by
  refine ⟨fun heq => ?_, choose_eq_of_coincides this⟩
  have hmissing : missing.choose this v = chooseByShape this v := by
    rw [choose, Value.called, if_neg h]
    rfl
  by_cases hsequence : v.isSequence = true
  · exact .inl hsequence
  have heach : each.choose this v = .ok .inverse := by
    rw [choose, if_neg hsequence]
  rw [heach, hmissing, chooseByShape] at heq
  cases hshape : v.shape with
  | falsy => exact .inr (Value.shape_eq_falsy_iff.1 hshape)
  | sequence => exact absurd (Value.shape_eq_sequence_iff.1 hshape) hsequence
  | callable => exact absurd hshape h
  | truth | record =>
      rw [hshape] at heq
      cases heq

end Builtin

/-! ## Sections by name and by value -/

namespace Node

variable {s : Scope} {included : Node → Frame → Run String} {head p : Path} {b : Builtin}
  {v : Value} {f : Frame}

/-- The output and the failure of a section, whichever builtin serves it. Whether the helper is
reported makes no difference to them. -/
theorem outcome_visit_served (h : s.ServedBy head b) {params : List Node}
    (hparams : ∀ n ∈ params, n.isExpression = true) (hone : params.length ≤ 1)
    (hvalue : b.subject head params f = .ok v) (body : Node) (inverse closing : Option Node)
    (inverted : Bool) :
    ((·.text) <$> visit s included (.block head params body inverse closing inverted) f).outcome =
      (ofExcept (b.choose f.data v) >>= fun choice =>
        if inverted then
          choice.output (fun _ => pure "") ((·.text) <$> visit s included body (f.child f.data))
        else
          choice.output (fun data => (·.text) <$> visit s included body (f.child data))
            (partOutput s included inverse (f.child f.data))).outcome := by
  cases inverted with
  | true =>
      rw [text_visit_inverted h hparams hone, hvalue, ofExcept_ok, pure_bind]
      rfl
  | false =>
      rw [text_visit_section h hparams hone, hvalue, ofExcept_ok, pure_bind, outcome_bind,
        Builtin.outcome_announce]
      rfl

/-- A section by the name of a helper and a section by its value, one in the place of the other. -/
theorem outcome_visit_dispatch (h : s.ServedBy head b) (hmissing : s.ServedBy p .missing)
    (hvalue : f.resolve p = .ok v) (hcoincides : b.Coincides v) (body : Node)
    (inverse closing closing' : Option Node) (inverted : Bool) :
    ((·.text) <$> visit s included (.block head [.path p] body inverse closing inverted)
      f).outcome =
    ((·.text) <$> visit s included (.block p [] body inverse closing' inverted) f).outcome := by
  have hparams : ∀ n ∈ [Node.path p], n.isExpression = true := by simp [isExpression]
  have hsubject : b.subject head [.path p] f = .ok v := hvalue
  have hsubject' : Builtin.missing.subject p [] f = .ok v := hvalue
  rw [outcome_visit_served h hparams (by simp) hsubject,
    outcome_visit_served hmissing (by simp) (by simp) hsubject',
    Builtin.choose_eq_of_coincides f.data hcoincides]

/-- **Sections by name and by value agree where their helpers do.** A section, inverted or not, that
hands a value to a builtin helper ends like the one whose head is the value, if the helper decides
for this value like the one for sections that name none: for a sequence, false and no value with
`each`, for a truth value and no value with `if`. The output and the failure are the same, whatever
the bodies do. -/
theorem outcome_renderWithin_dispatch (h : s.ServedBy head b) (hmissing : s.ServedBy p .missing)
    (hvalue : f.resolve p = .ok v) (hcoincides : b.Coincides v) (body : Node)
    (inverse closing closing' : Option Node) (inverted : Bool) (before after : List Node)
    (limit : Nat) :
    ((Node.program (before ++ .block head [.path p] body inverse closing inverted ::
      after)).renderWithin s limit f).outcome =
    ((Node.program (before ++ .block p [] body inverse closing' inverted ::
      after)).renderWithin s limit f).outcome :=
  outcome_renderWithin_replace (fun _ => outcome_visit_dispatch h hmissing hvalue hcoincides body
    inverse closing closing' inverted) before after limit

theorem servedBy_each : builtinScope.ServedBy eachPath .each := ⟨rfl, nofun⟩

theorem servedBy_missing (h : builtinScope.helperAt? p = .ok none) :
    builtinScope.ServedBy p .missing :=
  ⟨h, fun _ => ⟨_, rfl, Helper.servesMissing_builtinMissing⟩⟩

/-- Data with a list of guests that is a function too. -/
def fullHouse : Frame where
  data := .mapping [(.text "guests", .callableList [.text "Ann", .none] (.bool false))]

theorem outcome_renderWithin_dispatch_guests :
    builtinScope.ServedBy eachPath .each ∧ builtinScope.ServedBy guestsPath .missing ∧
      (∃ v, fullHouse.resolve guestsPath = .ok v ∧ Builtin.each.Coincides v) ∧
      ((Node.program ([.content "at home: "] ++ .block eachPath [.path guestsPath]
        (.program [.insertion ⟨[], 0, "this"⟩ []]) (some (.program [.content "nobody"])) none
          false :: [])).renderWithin builtinScope 1 fullHouse).outcome =
      ((Node.program ([.content "at home: "] ++ .block guestsPath []
        (.program [.insertion ⟨[], 0, "this"⟩ []]) (some (.program [.content "nobody"])) none
          false :: [])).renderWithin builtinScope 1 fullHouse).outcome := by
  have hmissing : builtinScope.ServedBy guestsPath .missing := servedBy_missing rfl
  have hvalue : fullHouse.resolve guestsPath =
      .ok (.callableList [.text "Ann", .none] (.bool false)) := rfl
  have hcoincides : Builtin.each.Coincides (.callableList [.text "Ann", .none] (.bool false)) :=
    .inl rfl
  exact ⟨servedBy_each, hmissing, ⟨_, hvalue, hcoincides⟩,
    outcome_renderWithin_dispatch servedBy_each hmissing hvalue hcoincides _ _ none none false _ _
      1⟩

end Node

end Templating
