import Templating.Text.Lines
import Templating.Value.Member
import Templating.Value.Text

/-!
# How values fail

A property of errors says what a computation can fail with, and it passes through sequencing
(`Meets.bind`). The functions on which everything else rests each have few failures: values are not
written only for an integer that is too long (`Value.failsAs_toText`), bytes are refused only for
being no text (`Text.failsAs_ofBytes`), digits for being none or too many, and lengths for being
none or too great.
-/

namespace Templating

/-! ## Results and errors with properties -/

/-- Whether a result has the first property, or an error the second one. -/
def Meets {ε α : Type} (P : α → Prop) (Q : ε → Prop) : Except ε α → Prop
  | .ok a => P a
  | .error e => Q e

/-- Whether an error has the property, if there is one. -/
abbrev FailsAs {ε α : Type} (Q : ε → Prop) (x : Except ε α) : Prop :=
  Meets (fun _ => True) Q x

namespace Meets

variable {ε ε' α β : Type} {P : α → Prop} {Q : ε → Prop} {x : Except ε α}

theorem bind {R : β → Prop} {f : α → Except ε β} (hx : Meets P Q x)
    (hf : ∀ a, P a → Meets R Q (f a)) : Meets R Q (x >>= f) := by
  cases x with
  | error e => exact hx
  | ok a => exact hf a hx

theorem map {R : β → Prop} {f : α → β} (hx : Meets P Q x) (hf : ∀ a, P a → R (f a)) :
    Meets R Q (x.map f) := by
  cases x with
  | error e => exact hx
  | ok a => exact hf a hx

theorem mapError {R : ε' → Prop} {f : ε → ε'} (hx : Meets P Q x) (hf : ∀ e, Q e → R (f e)) :
    Meets P R (x.mapError f) := by
  cases x with
  | error e => exact hf e hx
  | ok a => exact hx

theorem imp {R : ε → Prop} (hx : Meets P Q x) (hQ : ∀ e, Q e → R e) : Meets P R x := by
  cases x with
  | error e => exact hQ e hx
  | ok a => exact hx

theorem ite {c : Prop} [Decidable c] {y : Except ε α} (hx : Meets P Q x) (hy : Meets P Q y) :
    Meets P Q (if c then x else y) := by
  split
  · exact hx
  · exact hy

theorem of_ok {a : α} (hx : Meets P Q x) (h : x = .ok a) : P a := by
  subst h
  exact hx

theorem of_error {e : ε} (hx : Meets P Q x) (h : x = .error e) : Q e := by
  subst h
  exact hx

end Meets

/-! ## Bytes and digits -/

/-- The failures of bytes that are no text. -/
inductive Failure.OfBytes : Failure → Prop where
  | undecodable (bytes : List UInt8) (start : Nat) (problem : Utf8Problem) :
      OfBytes (.undecodable bytes start problem)

/-- The failures of characters that are to be an integer. -/
inductive Failure.OfDigits : Failure → Prop where
  | invalid (base : Nat) (text : String) : OfDigits (.invalidInteger base text)
  | excess (given : Nat) : OfDigits (.digitLimit (some given))

/-- The failure of writing an integer. -/
inductive Failure.OfWriting : Failure → Prop where
  | excess : OfWriting (.digitLimit none)

theorem Text.Utf8.failsAs_decodeFrom (start : Nat) (bytes : List UInt8) :
    FailsAs Failure.OfBytes (decodeFrom start bytes) := by
  fun_induction decodeFrom start bytes with
  | case1 => trivial
  | case2 => exact .undecodable _ _ _
  | case3 _ _ _ _ _ _ _ _ _ ih => exact ih.bind fun _ _ => trivial
  | case4 => exact .undecodable _ _ _
  | case5 => exact .undecodable _ _ _

theorem Text.failsAs_ofBytes (bytes : List UInt8) : FailsAs Failure.OfBytes (ofBytes bytes) :=
  (Utf8.failsAs_decodeFrom 0 bytes).map fun _ _ => trivial

namespace Integer

theorem failsAs_ofDigits (base : Nat) (cs : List Char) :
    FailsAs Failure.OfDigits (ofDigits base cs) := by
  unfold ofDigits
  dsimp only
  exact .ite (.excess _) (.ite (.invalid _ _) trivial)

theorem failsAs_ofText (base : Nat) (cs : List Char) :
    FailsAs Failure.OfDigits (ofText base cs) := by
  unfold ofText
  extract_lets trimmed read
  have hread (digits : List Char) : FailsAs Failure.OfDigits (read digits) := by
    refine (failsAs_ofDigits base digits).mapError fun f hf => ?_
    split
    · exact .invalid _ _
    · exact hf
  have hsigned (digits : List Char) (sign : Int → Int) :
      FailsAs Failure.OfDigits (Except.map sign do
        let n ← read digits
        pure (n : Int)) :=
    Meets.map (P := fun _ => True) ((hread digits).bind fun _ _ => trivial) fun _ _ => trivial
  clear_value trimmed
  split
  · exact hsigned _ _
  · exact hsigned _ _
  · exact hsigned _ _

theorem failsAs_toText (n : Int) : FailsAs Failure.OfWriting (toText n) := by
  unfold toText
  dsimp only
  exact .ite .excess trivial

end Integer

/-! ## Values -/

/-- The failures of asking for a length. -/
inductive Failure.OfLength : Failure → Prop where
  | missing (typeName : String) : OfLength (.noLength typeName)
  | excess : OfLength .lengthLimit

namespace Value

theorem failsAs_length (v : Value) : FailsAs Failure.OfLength v.length := by
  unfold length
  split
  case h_8 => exact .ite trivial .excess
  case h_9 => exact .missing _
  all_goals trivial

theorem failsAs_quoteRange (r : IntRange) : FailsAs Failure.OfWriting (quoteRange r) := by
  have htext := Integer.failsAs_toText
  refine (htext r.start).bind fun _ _ => (htext r.stop).bind fun _ _ => ?_
  exact .ite trivial ((htext r.step).bind fun _ _ => trivial)

mutual

theorem failsAs_quote : ∀ v : Value, FailsAs Failure.OfWriting v.quote
  | .none | .bool _ | .float _ | .text _ | .bytes _ | .buffer _ | .date _ _ _ | .dateTime _
  | .function _ | .failing _ | .method _ _ => trivial
  | .int n => Integer.failsAs_toText n
  | .list items | .callableList items _ => (failsAs_quoteAll items).bind fun _ _ => trivial
  | .tuple items => (failsAs_quoteAll items).bind fun parts _ => by split <;> trivial
  | .mapping entries => (failsAs_quoteEntries entries).bind fun _ _ => trivial
  | .range r => failsAs_quoteRange r
  | .object _ attributes => (failsAs_quoteAttributes attributes).bind fun _ _ => trivial

theorem failsAs_quoteAll : ∀ vs : List Value, FailsAs Failure.OfWriting (quoteAll vs)
  | [] => trivial
  | v :: vs => (failsAs_quote v).bind fun _ _ => (failsAs_quoteAll vs).bind fun _ _ => trivial

theorem failsAs_quoteEntries :
    ∀ entries : List (Value × Value), FailsAs Failure.OfWriting (quoteEntries entries)
  | [] => trivial
  | (k, v) :: entries => (failsAs_quote k).bind fun _ _ => (failsAs_quote v).bind fun _ _ =>
      (failsAs_quoteEntries entries).bind fun _ _ => trivial

theorem failsAs_quoteAttributes :
    ∀ attributes : List (String × Value), FailsAs Failure.OfWriting (quoteAttributes attributes)
  | [] => trivial
  | (_, v) :: attributes => (failsAs_quote v).bind fun _ _ =>
      (failsAs_quoteAttributes attributes).bind fun _ _ => trivial

end

/-- **A value is not written only for an integer that is too long.** -/
theorem failsAs_toText (v : Value) : FailsAs Failure.OfWriting v.toText := by
  unfold toText
  split
  · trivial
  · trivial
  · trivial
  · exact failsAs_quote v

end Value

end Templating
