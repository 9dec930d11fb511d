import Templating.Proofs.Dispatch
import Templating.Proofs.Lookup
import Templating.Proofs.Printable

/-!
# Iterating and indexing

The elements of a sequence can be reached in two ways: a block goes over them, and a path with a
number at its end picks one of them. Both come to the same elements in the same order
(`Node.render_elements`): a block with the elements as its body renders what the insertions of all
numbers in a row render, and a number beyond the last element renders nothing. A range that is too
long to be counted stops both.

The two ways have their own notion of a sequence, though. The elements of a buffer have numbers, but
a block does not go over them (`Node.render_elements_buffer`).
-/

namespace Templating

open Run

/-! ## Numbers as names -/

namespace Text

variable {c : Char}

theorem toNat_of_isDigit (h : c.isDigit = true) : 48 ≤ c.toNat ∧ c.toNat ≤ 57 := by
  have hrange : 48 ≤ c.val ∧ c.val ≤ 57 := by simpa [Char.isDigit] using h
  exact hrange

/-- A decimal digit of ASCII stands for its distance from the zero. -/
theorem decimalValue?_of_isDigit (h : c.isDigit = true) :
    decimalValue? c = some (c.toNat - 48) := by
  have hrange := toNat_of_isDigit h
  have hfirst : zeros.find? (fun first => first ≤ c.toNat && c.toNat < first + 10) = some 48 := by
    refine List.find?_cons_of_pos ?_
    simp only [Bool.and_eq_true, decide_eq_true_eq]
    omega
  rw [decimalValue?, hfirst]
  rfl

theorem isDigit_of_isDigit (h : c.isDigit = true) : isDigit c = true := by
  rw [isDigit, decimalValue?_of_isDigit h]
  rfl

theorem isWordChar_of_isDigit (h : c.isDigit = true) : isWordChar c = true := by
  have hrange : c.toNat < 0x80 := by
    have hdigit := toNat_of_isDigit h
    omega
  have hnumeral : isNumeral c = true := by rw [isNumeral, if_pos hrange, h]
  simp [isWordChar, isAlphanumeric, hnumeral]

end Text

section Numbers

variable {i : Nat} {c : Char}

theorem toList_toString (i : Nat) : (toString i).toList = Nat.toDigits 10 i := by
  rw [Nat.toString_eq_repr, Nat.toList_repr]

theorem isDigit_of_mem_toString (h : c ∈ (toString i).toList) : c.isDigit = true := by
  rw [toList_toString] at h
  exact Nat.isDigit_of_mem_toDigits (by decide) (by decide) h

/-- A number is no text with another character. -/
theorem toString_ne {text : String} (hmem : c ∈ text.toList) (hc : c.isDigit = false) :
    toString i ≠ text := by
  rintro rfl
  rw [isDigit_of_mem_toString hmem] at hc
  cases hc

/-- **Numbers are read as they are written**, if they are not too long to be read. -/
theorem Integer.ofDigits_toDigits (h : (Nat.toDigits 10 i).length ≤ digitLimit) :
    ofDigits 10 (Nat.toDigits 10 i) = .ok i := by
  have hdigit {c : Char} (hc : c ∈ Nat.toDigits 10 i) : digitValue? 10 c = some (c.toNat - 48) := by
    have hvalue := Text.decimalValue?_of_isDigit (Nat.isDigit_of_mem_toDigits (by decide)
      (by decide) hc)
    simp [digitValue?, hvalue, Option.filter, Text.decimalValue?_lt hvalue]
  have hrun : (Nat.toDigits 10 i).takeWhile (fun c => (digitValue? 10 c).isSome) =
      Nat.toDigits 10 i :=
    List.takeWhile_eq_self_iff.2 fun c hc => by rw [hdigit hc, Option.isSome_some]
  have hvalue :
      (Nat.toDigits 10 i).foldl (fun n c => n * 10 + (digitValue? 10 c).getD 0) 0 = i := by
    refine Eq.trans ?_ (Nat.ofDigitChars_eq_foldl.symm.trans Nat.ofDigitChars_ten_toDigits)
    refine List.foldl_ext _ _ 0 fun n c hc => ?_
    rw [hdigit hc, Nat.mul_comm]
    rfl
  unfold ofDigits
  rw [hrun, if_neg (by omega), if_neg (by simp [Nat.toDigits_ne_nil]), hvalue]

theorem Value.isIndexName_toString (i : Nat) : isIndexName (toString i) = true := by
  have hne : toString i ≠ "" := by
    intro hnil
    have hlist := toList_toString i
    rw [hnil] at hlist
    exact Nat.toDigits_ne_nil hlist.symm
  have hdigits : (toString i).toList.all Text.isDigit = true :=
    List.all_eq_true.2 fun c hc => Text.isDigit_of_isDigit (isDigit_of_mem_toString hc)
  rw [isIndexName, hdigits, Bool.and_true]
  exact bne_iff_ne.2 hne

end Numbers

/-! ## Paths to elements -/

/-- The path to an element of what another path leads to. -/
def Path.element (p : Path) (i : Nat) : Path where
  parts := p.parts ++ [toString i]
  depth := p.depth
  written := p.written ++ "." ++ toString i

namespace Value

variable {v w : Value} {items : List Value} {i : Nat}

theorem follow_append (names more : List String) :
    v.follow (names ++ more) = v.follow names >>= fun w => w.follow more := by
  induction names generalizing v with
  | nil => rfl
  | cons name names ih =>
      rw [List.cons_append, follow, follow]
      cases v.member name with
      | error e => rfl
      | ok w => exact ih

/-- The name of a number finds the element under this number, or no value if there is none. The
elements have to be counted for that. -/
theorem member_toString (hitems : v.elements? = some items)
    (hi : (Nat.toDigits 10 i).length ≤ digitLimit) :
    v.member (toString i) = v.length.map fun _ => items[i]?.getD .none := by
  rw [member_of_elements hitems, if_pos (isIndexName_toString i), toList_toString,
    Integer.ofDigits_toDigits hi]
  rfl

/-- There are fewer digits in a number that can count elements than may be read. -/
theorem length_toDigits_of_lt (hi : i < lengthLimit) : (Nat.toDigits 10 i).length ≤ digitLimit := by
  have hlimit : lengthLimit ≤ 10 ^ 19 := by decide +kernel
  have hdigits : 19 ≤ digitLimit := by decide
  exact ((Nat.length_toDigits_le_iff (by decide) (by decide)).2 (by omega)).trans hdigits

end Value

namespace Frame

variable {f : Frame} {p : Path} {v : Value} {items : List Value} {i : Nat}

theorem resolve_element (hvalue : f.resolve p = .ok v) (hitems : v.elements? = some items)
    (hi : (Nat.toDigits 10 i).length ≤ digitLimit) :
    f.resolve (p.element i) = v.length.map fun _ => items[i]?.getD .none := by
  cases hdata : f.dataAt? p.depth with
  | none =>
      rw [resolve, hdata] at hvalue
      cases hvalue
      cases hitems
  | some data =>
      rw [resolve_of_data hdata] at hvalue
      have hdata' : f.dataAt? (p.element i).depth = some data := hdata
      rw [resolve_of_data hdata']
      show data.follow (p.parts ++ [toString i]) = _
      rw [Value.follow_append, hvalue]
      show v.follow [toString i] = _
      rw [Value.follow, Value.member_toString hitems hi]
      exact bind_pure _

end Frame

/-- A path to an element is no plain name, so that it is not the name of a helper. -/
theorem Path.isSimple_element (p : Path) (i : Nat) : (p.element i).isSimple = false := by
  rw [← Bool.not_eq_true, isSimple_iff]
  rintro ⟨-, hparts⟩
  have hlast : toString i = p.written ++ "." ++ toString i := by
    have := congrArg List.getLast? hparts
    simpa [element] using this
  have hlength := congrArg String.length hlast
  simp at hlength

/-! ## What is rendered -/

namespace Node

variable {s : Scope} {included : Node → Frame → Run String} {p : Path} {v : Value} {f : Frame}
  {items : List Value}

/-- The insertions of the first elements in a row. -/
def elements (p : Path) (count : Nat) : List Node :=
  (List.range count).map fun i => .insertion (p.element i) []

/-- The path to the data of a frame. -/
def thisPath : Path where
  parts := []
  written := "this"

/-- An insertion of what a path leads to that names no helper. -/
theorem text_visit_insertion (hhelper : s.helperAt? p = .ok none) :
    (·.text) <$> visit s included (.insertion p []) f =
      ofExcept (f.resolve p >>= Value.output) := by
  rw [visit_insertion, hhelper]
  simp only [ofExcept_ok, pure_bind, ← bind_pure_comp, bind_assoc, ofExcept_bind, bind_pure]

theorem text_visit_element (hvalue : f.resolve p = .ok v) (hitems : v.elements? = some items)
    {i : Nat} (hi : (Nat.toDigits 10 i).length ≤ digitLimit) :
    (·.text) <$> visit s included (.insertion (p.element i) []) f = (do
      let _ ← ofExcept v.length
      ofExcept (items[i]?.getD .none).output) := by
  have hhelper : s.helperAt? (p.element i) = .ok none := by
    rw [Scope.helperAt?, Path.isSimple_element]
    rfl
  rw [text_visit_insertion hhelper, Frame.resolve_element hvalue hitems hi, ofExcept_bind,
    ofExcept_map, bind_map_left]

theorem text_visit_program_singleton (n : Node) (f : Frame) :
    (·.text) <$> visit s included (.program [n]) f = (·.text) <$> visit s included n f := by
  rw [text_visit_program, output_cons, output_nil]
  simp only [pure_bind, String.append_empty, bind_pure]

theorem text_visit_this (data : Value) :
    (·.text) <$> visit s included (.program [.insertion thisPath []]) (f.child data) =
      ofExcept data.output := by
  rw [text_visit_program_singleton]
  exact text_visit_insertion rfl

theorem output_map_element (hvalue : f.resolve p = .ok v) (hitems : v.elements? = some items)
    (hcount : ¬ v.IsVast) {is : List Nat}
    (his : ∀ i ∈ is, (Nat.toDigits 10 i).length ≤ digitLimit) :
    output s included (is.map fun i => .insertion (p.element i) []) f =
      joined (fun item => ofExcept item.output) (is.map fun i => items[i]?.getD .none) := by
  induction is with
  | nil => rfl
  | cons i is ih =>
      obtain ⟨hi, his⟩ := List.forall_mem_cons.1 his
      rw [List.map_cons, List.map_cons, output_cons, text_visit_element hvalue hitems hi, ih his,
        joined_cons, Value.length_of_not_isVast hitems hcount, ofExcept_ok, pure_bind]

/-- The texts of the elements of a value in order, once their length is known. -/
def elementTexts (v : Value) (items : List Value) : Run String := do
  let _ ← ofExcept v.length
  joined (fun item => ofExcept item.output) items

/-- The insertions of all numbers in a row give the texts of the elements in a row, if these can be
counted. -/
theorem output_elements (hvalue : f.resolve p = .ok v) (hitems : v.elements? = some items)
    (hlength : v.IsVast ∨ items.length < Value.lengthLimit) :
    output s included (elements p items.length) f = elementTexts v items := by
  by_cases hvast : v.IsVast
  · -- The first of the insertions fails.
    have hlimit : v.length = .error .lengthLimit := Value.length_of_isVast hvast
    obtain ⟨count, hcount⟩ : ∃ count, items.length = count + 1 :=
      Nat.exists_eq_succ_of_ne_zero (Value.length_ne_zero_of_isVast hitems hvast)
    rw [elements, hcount, List.range_succ_eq_map, List.map_cons, output_cons,
      text_visit_element hvalue hitems (by decide), elementTexts, hlimit]
    rfl
  · have hcount := hlength.resolve_left hvast
    have hall : (List.range items.length).map (fun i => items[i]?.getD .none) = items := by
      refine List.ext_getElem (by simp) fun i hi hi' => ?_
      rw [List.getElem_map, List.getElem_range, List.getElem?_eq_getElem hi']
      rfl
    have hdigits : ∀ i ∈ List.range items.length, (Nat.toDigits 10 i).length ≤ digitLimit :=
      fun i hi => Value.length_toDigits_of_lt ((List.mem_range.1 hi).trans hcount)
    rw [elements, output_map_element hvalue hitems hvast hdigits, hall, elementTexts,
      Value.length_of_not_isVast hitems hvast, ofExcept_ok, pure_bind]

/-- A block over a sequence whose body is the element. -/
def eachOver (p : Path) : Node :=
  .block eachPath [.path p] (.program [.insertion thisPath []]) none (some (.path eachPath)) false

/-- A section on a sequence whose body is the element. -/
def sectionOver (p : Path) : Node :=
  .block p [] (.program [.insertion thisPath []]) none (some (.path p)) false

/-- The rows of a sequence, and nothing if there are none. -/
theorem output_ofItems (primary : Value → Run String) (items : List Value) :
    (Choice.ofItems items).output primary (pure "") = joined primary items := by
  cases items with
  | nil | cons _ _ => rfl

section Sequences

variable (hvalue : f.resolve p = .ok v) (hsequence : v.isSequence = true)
  (hitems : v.elements? = some items)

include hsequence hitems

/-- A builtin that chooses the rows of a sequence renders its elements in order. -/
theorem text_visit_over {head : Path} {b : Builtin} (h : s.ServedBy head b) {params : List Node}
    (hparams : ∀ n ∈ params, n.isExpression = true) (hone : params.length ≤ 1)
    (hsubject : b.subject head params f = .ok v)
    (hchoose : b.choose f.data v = Choice.ofSequence v) (closing : Option Node) :
    (·.text) <$> visit s included
        (.block head params (.program [.insertion thisPath []]) none closing false) f = (do
      b.announce head.written
      elementTexts v items) := by
  obtain rfl : v.items = items :=
    Option.some.inj ((Value.elements?_of_isSequence hsequence).symm.trans hitems)
  rw [text_visit_section h hparams hone, hsubject, ofExcept_ok, pure_bind]
  refine bind_congr fun _ => ?_
  rw [hchoose, Choice.ofSequence, ofExcept_map, bind_map_left]
  refine bind_congr fun _ => ?_
  simp only [text_visit_this]
  exact output_ofItems _ v.items

include hvalue

theorem text_visit_eachOver (heach : s.ServedBy eachPath .each) :
    (·.text) <$> visit s included (eachOver p) f = elementTexts v items := by
  have hsubject : Builtin.each.subject eachPath [.path p] f = .ok v := hvalue
  exact text_visit_over hsequence hitems heach (by simp [isExpression]) (by simp) hsubject
    (if_pos hsequence) _

theorem outcome_visit_sectionOver (hmissing : s.ServedBy p .missing) :
    ((·.text) <$> visit s included (sectionOver p) f).outcome =
      (elementTexts v items).outcome := by
  have hsubject : Builtin.missing.subject p [] f = .ok v := hvalue
  rw [sectionOver, text_visit_over hsequence hitems hmissing (by simp) (by simp) hsubject
    (Builtin.choose_missing_of_isSequence f.data hsequence), outcome_bind, Builtin.outcome_announce]
  rfl

end Sequences

end Node

/-! ## Templates -/

namespace Path

/-- A template that goes over a sequence with the builtin helper. -/
def eachText (p : Path) : String :=
  "\x7b\x7b#each " ++ p.written ++ "\x7d\x7d\x7b\x7bthis\x7d\x7d\x7b\x7b/each\x7d\x7d"

/-- A template that goes over a sequence as a section of its own. -/
def sectionText (p : Path) : String :=
  "\x7b\x7b#" ++ p.written ++ "\x7d\x7d\x7b\x7bthis\x7d\x7d\x7b\x7b/" ++ p.written ++ "\x7d\x7d"

/-- A template that inserts one element. -/
def elementText (p : Path) (i : Nat) : String :=
  "\x7b\x7b" ++ p.written ++ "." ++ toString i ++ "\x7d\x7d"

/-- A template that inserts the first elements in a row. -/
def elementsText (p : Path) (count : Nat) : String :=
  String.join ((List.range count).map p.elementText)

example : elementsText ⟨["x", "y"], 0, "x/y"⟩ 2 = "\x7b\x7bx/y.0\x7d\x7d\x7b\x7bx/y.1\x7d\x7d" := by
  decide +kernel

/-- A name at the end of a path is not special. -/
theorem names_append {t : Token} (h : t.text ≠ parentSegment) (ts : List Token) :
    names (ts ++ [t]) = (names ts).map (· ++ [t.text]) := by
  have hlast : [t].find? (·.text = parentSegment) = none := by simp [h]
  unfold names
  rw [List.find?_append, hlast, Option.or_none]
  cases ts.find? (·.text = parentSegment) with
  | some u => rfl
  | none => simp [Except.map]

theorem steps_append {t : Token} (h : t.text ≠ parentSegment) (h' : t.text ≠ thisSegment)
    (first : Bool) (depth : Nat) (ts : List Token) :
    steps first depth (ts ++ [t]) =
      (steps first depth ts).map fun (depth, parts) => (depth, parts ++ [t.text]) := by
  have hmap (ts : List Token) (depth : Nat) :
      (names (ts ++ [t])).map (depth, ·) =
        ((names ts).map (depth, ·)).map fun (depth, parts) => (depth, parts ++ [t.text]) := by
    rw [names_append h]
    cases names ts with
    | error e => rfl
    | ok parts => rfl
  induction ts generalizing first depth with
  | nil =>
      have hone : steps first depth [t] = (names [t]).map (depth, ·) := by
        rw [steps, if_neg h, if_neg fun hboth => h' hboth.1]
      rw [List.nil_append, hone]
      exact hmap [] depth
  | cons u ts ih =>
      rw [List.cons_append, steps, steps]
      split
      · exact ih first _
      · split
        · exact ih false depth
        · exact hmap (u :: ts) depth

theorem ofSegments_append {first t : Token} {more : List (Token × Token)} {p : Path}
    (h : t.text ≠ parentSegment) (h' : t.text ≠ thisSegment) (separator : Token)
    (hp : ofSegments first more = .ok p) :
    ofSegments first (more ++ [(separator, t)]) =
      .ok ⟨p.parts ++ [t.text], p.depth, p.written ++ separator.text ++ t.text⟩ := by
  unfold ofSegments at hp ⊢
  obtain ⟨⟨depth, parts⟩, hsteps, rfl⟩ := map_eq_ok.1 hp
  rw [List.map_append, List.map_cons, List.map_nil, ← List.cons_append, steps_append h h', hsteps,
    writtenOf, List.foldl_append]
  rfl

theorem isSpelled_element {p : Path} (h : p.IsSpelled) (i : Nat) : (p.element i).IsSpelled := by
  obtain ⟨first, more, hfirst, hmore, hp⟩ := h
  have hdot : '.'.isDigit = false := by decide
  have hparent : toString i ≠ parentSegment := toString_ne (c := '.') (by decide) hdot
  have hthis : toString i ≠ thisSegment := toString_ne (c := 't') (by decide) (by decide)
  have hsegment : IsSegment (toString i) := by
    refine .inr ⟨?_, fun c hc => Text.isWordChar_of_isDigit (isDigit_of_mem_toString hc)⟩
    rw [toList_toString]
    exact Nat.toDigits_ne_nil
  refine ⟨first, more ++ [(".", toString i)], hfirst, ?_, ?_⟩
  · intro step hstep
    rcases List.mem_append.1 hstep with hstep | hstep
    · exact hmore step hstep
    · obtain rfl := List.mem_singleton.1 hstep
      exact ⟨hsegment, .inr ⟨rfl, hparent⟩⟩
  · rw [List.map_append]
    exact ofSegments_append hparent hthis _ hp

theorem isSpelled_this : Node.thisPath.IsSpelled :=
  ⟨"this", [], by decide +kernel, by simp, rfl⟩

theorem isSpelled_each : Node.eachPath.IsSpelled :=
  ⟨"each", [], by decide +kernel, by simp, rfl⟩

end Path

namespace Node

variable {p : Path}

/-- The text of a printable program is parsed to the program. -/
theorem ofTemplate_of_source {ns : List Node} {text : String}
    (h : Printable Path.IsSpelled true ns) (hsource : (program ns).source = text.toList) :
    ofTemplate text = .ok (program ns) := by
  obtain ⟨text', hprint, hparse⟩ := ofTemplate_print_of_printable h
  unfold print at hprint
  split at hprint
  · cases hprint
  · cases hprint
    rwa [hsource, String.ofList_toList] at hparse

theorem ofTemplate_eachText (h : p.IsSpelled) :
    ofTemplate p.eachText = .ok (program [eachOver p]) := by
  have hparams : ∀ n ∈ [Node.path p], PrintableOperand Path.IsSpelled n := by simpa using .path h
  have hbody : Printable Path.IsSpelled false [.insertion thisPath []] :=
    .insertion Path.isSpelled_this (by simp) .nil
  have hprintable : Printable Path.IsSpelled true [.block eachPath [.path p]
      (.program [.insertion thisPath []]) (Option.map .program none) (some (.path eachPath))
      false] :=
    .block Path.isSpelled_each hparams hbody (by simp) (by simp) .nil
  refine ofTemplate_of_source hprintable ?_
  simp [eachOver, source, sources, paramSources, tag, Path.eachText, eachPath, thisPath]

theorem ofTemplate_sectionText (h : p.IsSpelled) :
    ofTemplate p.sectionText = .ok (program [sectionOver p]) := by
  have hbody : Printable Path.IsSpelled false [.insertion thisPath []] :=
    .insertion Path.isSpelled_this (by simp) .nil
  have hprintable : Printable Path.IsSpelled true [.block p []
      (.program [.insertion thisPath []]) (Option.map .program none) (some (.path p)) false] :=
    .block h (by simp) hbody (by simp) (by simp) .nil
  refine ofTemplate_of_source hprintable ?_
  simp [sectionOver, source, sources, paramSources, tag, Path.sectionText, thisPath]

theorem ofTemplate_join_elementText (h : p.IsSpelled) (is : List Nat) :
    ofTemplate (String.join (is.map p.elementText)) =
      .ok (program (is.map fun i => .insertion (p.element i) [])) := by
  have hprintable : Printable Path.IsSpelled true
      (is.map fun i => .insertion (p.element i) []) := by
    induction is with
    | nil => exact .nil
    | cons i is ih => exact .insertion (Path.isSpelled_element h i) (by simp) ih
  refine ofTemplate_of_source hprintable ?_
  rw [source]
  clear hprintable
  induction is with
  | nil => rfl
  | cons i is ih =>
      rw [List.map_cons, List.map_cons, String.join_cons, String.toList_append, sources, ih]
      simp [source, paramSources, tag, Path.elementText, Path.element]

theorem ofTemplate_elementsText (h : p.IsSpelled) (count : Nat) :
    ofTemplate (p.elementsText count) = .ok (program (elements p count)) :=
  ofTemplate_join_elementText h (List.range count)

theorem ofTemplate_elementText (h : p.IsSpelled) (i : Nat) :
    ofTemplate (p.elementText i) = .ok (program [.insertion (p.element i) []]) := by
  have hone := ofTemplate_join_elementText h [i]
  rwa [List.map_singleton, String.join_cons, String.join_nil, String.append_empty] at hone

/-- In a range that is too long to be counted no element is found, and none is missed either. -/
theorem renderWithin_element_of_isVast {s : Scope} {f : Frame} {v : Value} {items : List Value}
    (hvalue : f.resolve p = .ok v) (hitems : v.elements? = some items) (hvast : v.IsVast) {i : Nat}
    (hi : (Nat.toDigits 10 i).length ≤ digitLimit) (limit : Nat) :
    (program [.insertion (p.element i) []]).renderWithin s (limit + 1) f = fail .lengthLimit := by
  rw [renderWithin, text_visit_program_singleton, text_visit_element hvalue hitems hi,
    Value.length_of_isVast hvast]
  rfl

/-- **Iterating and indexing agree.** Over a sequence under a path that names no helper, a block
with the element as its body renders what the insertions of all numbers up to the length render in a
row, and so does the section on the path, which is only reported besides. A number beyond the last
element renders nothing, for every value whose elements have numbers. Only in a range that is too
long to be counted all of these fail, whatever the number. -/
theorem render_elements {s : Scope} {f : Frame} {v : Value} {items : List Value}
    (heach : s.ServedBy eachPath .each) (hmissing : s.ServedBy p .missing) (hp : p.IsSpelled)
    (hvalue : f.resolve p = .ok v) (hitems : v.elements? = some items) :
    (v.isSequence = true → v.IsVast ∨ items.length < Value.lengthLimit →
      ∃ iterated own indexed, ofTemplate p.eachText = .ok iterated ∧
        ofTemplate p.sectionText = .ok own ∧
        ofTemplate (p.elementsText items.length) = .ok indexed ∧
        ∀ limit, iterated.renderWithin s limit f = indexed.renderWithin s limit f ∧
          (own.renderWithin s limit f).outcome = (indexed.renderWithin s limit f).outcome) ∧
    (¬ v.IsVast → ∀ i, items.length ≤ i → (Nat.toDigits 10 i).length ≤ digitLimit →
      ∃ indexed, ofTemplate (p.elementText i) = .ok indexed ∧
        ∀ limit, indexed.renderWithin s (limit + 1) f = pure "") ∧
    (v.IsVast → ∀ i, (Nat.toDigits 10 i).length ≤ digitLimit →
      ∃ indexed, ofTemplate (p.elementText i) = .ok indexed ∧
        ∀ limit, indexed.renderWithin s (limit + 1) f = fail .lengthLimit) := by
  refine ⟨fun hsequence hlength => ?_, fun hvast i hge hi => ?_, fun hvast i hi => ?_⟩
  · refine ⟨_, _, _, ofTemplate_eachText hp, ofTemplate_sectionText hp,
      ofTemplate_elementsText hp _, fun limit => ?_⟩
    cases limit with
    | zero => exact ⟨rfl, rfl⟩
    | succ limit =>
        rw [renderWithin, renderWithin, renderWithin, text_visit_program_singleton,
          text_visit_program_singleton, text_visit_program, output_elements hvalue hitems hlength]
        exact ⟨text_visit_eachOver hvalue hsequence hitems heach,
          outcome_visit_sectionOver hvalue hsequence hitems hmissing⟩
  · refine ⟨_, ofTemplate_elementText hp i, fun limit => ?_⟩
    rw [renderWithin, text_visit_program_singleton, text_visit_element hvalue hitems hi,
      Value.length_of_not_isVast hitems hvast, List.getElem?_eq_none hge]
    rfl
  · exact ⟨_, ofTemplate_elementText hp i, renderWithin_element_of_isVast hvalue hitems hvast hi⟩

/-- A range under a name that is too long to be counted. -/
def spacious : Frame where
  data := .mapping [(.text "v", .range Value.vastRange)]

/-- The path to what is under that name. -/
def spaciousPath : Path := ⟨["v"], 0, "v"⟩

theorem isSpelled_spaciousPath : spaciousPath.IsSpelled :=
  ⟨"v", [], by decide +kernel, by simp, rfl⟩

/-- A list that is a function too, and a number beyond its elements; and a range that is too
long. -/
theorem render_elements_guests :
    builtinScope.ServedBy eachPath .each ∧ builtinScope.ServedBy guestsPath .missing ∧
      guestsPath.IsSpelled ∧
      (∃ v, fullHouse.resolve guestsPath = .ok v ∧ v.isSequence = true ∧
        v.elements? = some [.text "Ann", .none]) ∧
      [Value.text "Ann", .none].length < Value.lengthLimit ∧
      ¬ (Value.callableList [.text "Ann", .none] (.bool false)).IsVast ∧
      (Nat.toDigits 10 5).length ≤ digitLimit ∧
      (∃ iterated own indexed, ofTemplate guestsPath.eachText = .ok iterated ∧
        ofTemplate guestsPath.sectionText = .ok own ∧
        ofTemplate (guestsPath.elementsText 2) = .ok indexed ∧
        ∀ limit, iterated.renderWithin builtinScope limit fullHouse =
            indexed.renderWithin builtinScope limit fullHouse ∧
          (own.renderWithin builtinScope limit fullHouse).outcome =
            (indexed.renderWithin builtinScope limit fullHouse).outcome) ∧
      (∃ indexed, ofTemplate (guestsPath.elementText 5) = .ok indexed ∧
        ∀ limit, indexed.renderWithin builtinScope (limit + 1) fullHouse = pure "") ∧
      builtinScope.ServedBy spaciousPath .missing ∧ spaciousPath.IsSpelled ∧
      spacious.resolve spaciousPath = .ok (.range Value.vastRange) ∧
      (Value.range Value.vastRange).IsVast ∧
      ∃ indexed, ofTemplate (spaciousPath.elementText 5) = .ok indexed ∧
        ∀ limit, indexed.renderWithin builtinScope (limit + 1) spacious = fail .lengthLimit := by
  have hmissing : builtinScope.ServedBy guestsPath .missing := servedBy_missing rfl
  have hspelled : guestsPath.IsSpelled :=
    ⟨"guests", [], by decide +kernel, by simp, rfl⟩
  have hvalue : fullHouse.resolve guestsPath =
      .ok (.callableList [.text "Ann", .none] (.bool false)) := rfl
  have hlength : [Value.text "Ann", .none].length < Value.lengthLimit := by decide +kernel
  have hvast : ¬ (Value.callableList [.text "Ann", .none] (.bool false)).IsVast :=
    Value.not_isVast_of_lt rfl hlength
  have hbeyond : (Nat.toDigits 10 5).length ≤ digitLimit := by decide
  have h := render_elements servedBy_each hmissing hspelled hvalue rfl
  have hmissing' : builtinScope.ServedBy spaciousPath .missing := servedBy_missing rfl
  have hvalue' : spacious.resolve spaciousPath = .ok (.range Value.vastRange) := rfl
  have h' := render_elements servedBy_each hmissing' isSpelled_spaciousPath hvalue' rfl
  exact ⟨servedBy_each, hmissing, hspelled, ⟨_, hvalue, rfl, rfl⟩, hlength, hvast, hbeyond,
    h.1 rfl (.inr hlength), h.2.1 hvast 5 (by decide) hbeyond, hmissing', isSpelled_spaciousPath,
    hvalue', Value.isVast_vastRange, h'.2.2 Value.isVast_vastRange 5 hbeyond⟩

/-- A buffer of two bytes under a name. -/
def buffered : Frame where
  data := .mapping [(.text "v", .buffer [97, 98])]

/-- The elements of a buffer have numbers, but a block does not go over them. And the number beyond
the last one of a range that is too long does not render nothing. -/
theorem render_elements_buffer :
    let p : Path := ⟨["v"], 0, "v"⟩
    builtinScope.ServedBy eachPath .each ∧ builtinScope.ServedBy p .missing ∧ p.IsSpelled ∧
      (∃ v, buffered.resolve p = .ok v ∧ v.elements? = some [.int 97, .int 98]) ∧
      ∃ iterated indexed, ofTemplate p.eachText = .ok iterated ∧
        ofTemplate (p.elementsText 2) = .ok indexed ∧
        (iterated.render builtinScope buffered).outcome = .ok "" ∧
        (indexed.render builtinScope buffered).outcome = .ok "9798" ∧
      spacious.resolve p = .ok (.range Value.vastRange) ∧
      Value.vastRange.length = 9223372036854775808 ∧
      ∃ beyond, ofTemplate (p.elementText 9223372036854775808) = .ok beyond ∧
        (beyond.render builtinScope spacious).outcome = .error .lengthLimit := by
  intro p
  have hspelled : p.IsSpelled := isSpelled_spaciousPath
  have hover : ofTemplate p.eachText = .ok (program [eachOver p]) := ofTemplate_eachText hspelled
  have hindexed : ofTemplate (p.elementsText 2) = .ok (program (elements p 2)) :=
    ofTemplate_elementsText hspelled 2
  have hnothing : ((program [eachOver p]).render builtinScope buffered).outcome = .ok "" := by
    rw [render_eq_visit, text_visit_program_singleton, eachOver,
      text_visit_section servedBy_each (by simp [isExpression]) (by simp)]
    rfl
  have hvalue : buffered.resolve p = .ok (.buffer [97, 98]) := rfl
  have hitems : (Value.buffer [97, 98]).elements? = some [.int 97, .int 98] := rfl
  have hlength : [Value.int 97, .int 98].length < Value.lengthLimit := by decide +kernel
  have hbytes : ((program (elements p 2)).render builtinScope buffered).outcome = .ok "9798" := by
    rw [render_eq_visit, text_visit_program]
    exact congrArg Run.outcome (output_elements hvalue hitems (.inr hlength))
  have hbeyond : (Nat.toDigits 10 9223372036854775808).length ≤ digitLimit := by decide +kernel
  have hrange : spacious.resolve p = .ok (.range Value.vastRange) := rfl
  have hfails : ((program [.insertion (p.element 9223372036854775808) []]).render builtinScope
      spacious).outcome = .error .lengthLimit :=
    congrArg Run.outcome
      (renderWithin_element_of_isVast hrange rfl Value.isVast_vastRange hbeyond (nestingLimit - 1))
  exact ⟨servedBy_each, servedBy_missing rfl, hspelled, ⟨_, hvalue, hitems⟩, _, _, hover, hindexed,
    hnothing, hbytes, hrange, by decide +kernel, _, ofTemplate_elementText hspelled _, hfails⟩

end Node

end Templating
