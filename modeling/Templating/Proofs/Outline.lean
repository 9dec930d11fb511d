import Mathlib.Data.List.Forall2
import Mathlib.Data.List.TakeWhile
import Templating.Proofs.Sections

/-!
# Outlines of plain data

Plain data are what data files hold: nothing, truth values, integers, texts, lists, and mappings
with texts as keys. The outline of such a value tells, for every row of steps into it, whether
something is there and of which kind (`Value.outline`), but not which text or integer a leaf is.
A name finds what the outline alone decides (`Value.member_eq`), and so does everything else that
a template does with a value but to output it (`Value.shape_eq_of_isPlain`). Plain data are
never refused in an output (`Value.output_of_isPlain`).
-/

namespace Templating

/-! ## Plain data -/

namespace Value

mutual

/-- Whether a value is plain data. Its integers are no longer than an integer that is printed. -/
def isPlain : Value → Bool
  | .none | .bool _ | .text _ => true
  | .int n => decide ((Nat.toDigits 10 n.natAbs).length ≤ digitLimit)
  | .list items => arePlain items
  | .mapping entries => haveTextKeys entries
  | _ => false

/-- Whether all values of a list are plain data. -/
def arePlain : List Value → Bool
  | [] => true
  | v :: vs => v.isPlain && arePlain vs

/-- Whether entries have texts as keys, and plain data under them. -/
def haveTextKeys : List (Value × Value) → Bool
  | [] => true
  | (.text _, v) :: entries => v.isPlain && haveTextKeys entries
  | _ :: _ => false

end

theorem isPlain_of_mem {items : List Value} (h : arePlain items = true) :
    ∀ v ∈ items, v.isPlain = true := by
  induction items with
  | nil => simp
  | cons item items ih =>
      obtain ⟨hitem, hitems⟩ := Bool.and_eq_true_iff.1 h
      exact List.forall_mem_cons.2 ⟨hitem, ih hitems⟩

theorem isPlain_of_mem_entries {entries : List (Value × Value)}
    (h : haveTextKeys entries = true) : ∀ e ∈ entries, e.2.isPlain = true := by
  induction entries with
  | nil => simp
  | cons e entries ih =>
      obtain ⟨key, v⟩ := e
      cases key with
      | text s =>
          obtain ⟨hv, hentries⟩ := Bool.and_eq_true_iff.1 h
          exact List.forall_mem_cons.2 ⟨hv, ih hentries⟩
      | _ => cases h

mutual

/-- Plain data can be printed. -/
theorem quote_of_isPlain : ∀ {v : Value}, v.isPlain = true → ∃ text, v.quote = .ok text
  | .none, _ | .bool _, _ | .text _, _ => ⟨_, rfl⟩
  | .int n, h => by
      have hlimit : ¬ digitLimit < (Nat.toDigits 10 n.natAbs).length :=
        Nat.not_lt.2 (of_decide_eq_true h)
      exact ⟨_, if_neg hlimit⟩
  | .list items, h => by
      obtain ⟨texts, htexts⟩ := quoteAll_of_arePlain items h
      refine ⟨"[" ++ ", ".intercalate texts ++ "]", ?_⟩
      rw [quote, htexts]
      rfl
  | .mapping entries, h => by
      obtain ⟨texts, htexts⟩ := quoteEntries_of_haveTextKeys entries h
      refine ⟨"\x7b" ++ ", ".intercalate texts ++ "\x7d", ?_⟩
      rw [quote, htexts]
      rfl

theorem quoteAll_of_arePlain : ∀ items : List Value, arePlain items = true →
    ∃ texts, quoteAll items = .ok texts
  | [], _ => ⟨_, rfl⟩
  | v :: vs, h => by
      obtain ⟨hv, hvs⟩ := Bool.and_eq_true_iff.1 h
      obtain ⟨first, hfirst⟩ := quote_of_isPlain hv
      obtain ⟨rest, hrest⟩ := quoteAll_of_arePlain vs hvs
      refine ⟨first :: rest, ?_⟩
      rw [quoteAll, hfirst, hrest]
      rfl

theorem quoteEntries_of_haveTextKeys : ∀ entries : List (Value × Value),
    haveTextKeys entries = true → ∃ texts, quoteEntries entries = .ok texts
  | [], _ => ⟨_, rfl⟩
  | (.text s, v) :: entries, h => by
      obtain ⟨hv, hentries⟩ := Bool.and_eq_true_iff.1 h
      obtain ⟨value, hvalue⟩ := quote_of_isPlain hv
      obtain ⟨rest, hrest⟩ := quoteEntries_of_haveTextKeys entries hentries
      refine ⟨(Text.quotedString s ++ ": " ++ value) :: rest, ?_⟩
      rw [quoteEntries, quote, hvalue, hrest]
      rfl

end

theorem output_of_isPlain {v : Value} (h : v.isPlain = true) : ∃ text, v.output = .ok text := by
  cases v with
  | none | text _ => exact ⟨_, rfl⟩
  | date _ _ _ | dateTime _ => cases h
  | _ => exact quote_of_isPlain h

end Value

/-! ## Steps into data -/

/-- A step from a value to one inside it. -/
inductive Step where
  /-- To the entry of a mapping under a text. -/
  | entry (name : String)
  /-- To the element of a list with a number. -/
  | element (index : Nat)
deriving DecidableEq, Repr

/-- What a plain value is, but for the contents of texts and integers. -/
inductive Kind where
  | nothing
  | truth (b : Bool)
  /-- A text or an integer. -/
  | leaf
  | list (length : Nat)
  | mapping
deriving DecidableEq, Repr

namespace Kind

/-- What a value of the kind is to a block. -/
def shape : Kind → Shape
  | nothing | truth false => .falsy
  | truth true => .truth
  | leaf | mapping => .record
  | list _ => .sequence

/-- The step to the member of that name of a value of the kind. -/
def step? (name : String) : Kind → Option Step
  | mapping => some (.entry name)
  | list _ =>
    if Value.isIndexName name then (Integer.ofDigits 10 name.toList).toOption.map .element
    else none
  | _ => none

end Kind

namespace Value

/-- The kind of a plain value. -/
def kind : Value → Kind
  | .none => .nothing
  | .bool b => .truth b
  | .list items => .list items.length
  | .mapping _ => .mapping
  | _ => .leaf

/-- The value one step into a value, if there is one. -/
def at? : Value → Step → Option Value
  | .mapping entries, .entry name => atText? entries name
  | .list items, .element i => items[i]?
  | _, _ => Option.none

/-- The value some steps into a value, if there is one. -/
def reach (v : Value) : List Step → Option Value
  | [] => some v
  | step :: steps => (v.at? step).bind (·.reach steps)

/-- The kinds of what is found in a value, by the steps to it: everything about plain data but the
contents of texts and integers. -/
def outline (v : Value) (steps : List Step) : Option Kind :=
  (v.reach steps).map kind

theorem reach_append (v : Value) (steps more : List Step) :
    v.reach (steps ++ more) = (v.reach steps).bind (·.reach more) := by
  induction steps generalizing v with
  | nil => rfl
  | cons step steps ih =>
      rw [List.cons_append, reach, reach, Option.bind_assoc]
      exact congrArg _ (funext fun w => ih w)

theorem reach_concat (v : Value) (steps : List Step) (step : Step) :
    v.reach (steps ++ [step]) = (v.reach steps).bind (·.at? step) := by
  rw [reach_append]
  exact congrArg _ (funext fun w => Option.bind_fun_some (w.at? step))

theorem shape_eq_of_isPlain {v : Value} (h : v.isPlain = true) : v.shape = v.kind.shape := by
  cases v with
  | none | int _ | text _ | list _ | mapping _ => rfl
  | bool b => cases b <;> rfl
  | _ => cases h

/-- The sequences of plain data are lists, whose lengths are always known. -/
theorem ofSequence_of_isPlain {v : Value} (h : v.isPlain = true) (hshape : v.shape = .sequence) :
    Choice.ofSequence v = .ok (.ofItems v.items) := by
  cases v with
  | list items => rfl
  | none | int _ | text _ | mapping _ => cases hshape
  | bool b => cases b <;> cases hshape
  | _ => cases h

theorem isPlain_of_at? {v w : Value} {step : Step} (h : v.isPlain = true)
    (hw : v.at? step = some w) : w.isPlain = true := by
  cases v with
  | list items =>
      cases step with
      | entry name => cases hw
      | element i => exact isPlain_of_mem h w (List.mem_of_getElem? hw)
  | mapping entries =>
      cases step with
      | entry name =>
          obtain ⟨e, he, rfl⟩ := Option.map_eq_some_iff.1 hw
          exact isPlain_of_mem_entries h e (List.mem_of_find?_eq_some he)
      | element i => cases hw
  | _ => cases hw

theorem isPlain_of_reach {v w : Value} {steps : List Step} (h : v.isPlain = true)
    (hw : v.reach steps = some w) : w.isPlain = true := by
  induction steps generalizing v with
  | nil =>
      cases hw
      exact h
  | cons step steps ih =>
      obtain ⟨u, hu, hw⟩ := Option.bind_eq_some_iff.1 hw
      exact ih (isPlain_of_at? h hu) hw

/-! ## Data with one outline -/

/-- Whether two plain values differ in no more than which texts and integers they hold: they have
the same truth values, lists of the same lengths, and mappings with the same keys. -/
inductive SameUpToLeaves : Value → Value → Prop where
  | nothing : SameUpToLeaves .none .none
  | truth (b : Bool) : SameUpToLeaves (.bool b) (.bool b)
  | leaf {v w : Value} (hv : v.kind = .leaf) (hw : w.kind = .leaf) : SameUpToLeaves v w
  | list {items others : List Value} (h : List.Forall₂ SameUpToLeaves items others) :
      SameUpToLeaves (.list items) (.list others)
  | mapping {entries others : List (Value × Value)} (keys : entries.map (·.1) = others.map (·.1))
      (values : List.Forall₂ SameUpToLeaves (entries.map (·.2)) (others.map (·.2))) :
      SameUpToLeaves (.mapping entries) (.mapping others)

namespace SameUpToLeaves

variable {v w : Value}

theorem kind_eq (h : SameUpToLeaves v w) : v.kind = w.kind := by
  cases h with
  | nothing | truth _ | mapping _ _ => rfl
  | leaf hv hw => exact hv.trans hw.symm
  | list h => exact congrArg Kind.list h.length_eq

theorem atText? {entries others : List (Value × Value)}
    (keys : entries.map (·.1) = others.map (·.1))
    (values : List.Forall₂ SameUpToLeaves (entries.map (·.2)) (others.map (·.2)))
    (name : String) :
    Option.Rel SameUpToLeaves (Value.atText? entries name) (Value.atText? others name) := by
  induction entries generalizing others with
  | nil =>
      rw [List.map_eq_nil_iff.1 keys.symm]
      exact .none
  | cons e entries ih =>
      cases others with
      | nil => cases keys
      | cons f others =>
          obtain ⟨hkey, keys⟩ := List.cons.inj keys
          obtain ⟨hvalue, values⟩ := List.forall₂_cons.1 values
          have hkey : e.1 = f.1 := hkey
          rw [Value.atText?, Value.atText?, List.find?_cons, List.find?_cons, ← hkey]
          cases e.1.sameKey (.text name) with
          | true => exact .some hvalue
          | false => exact ih keys values

theorem getElem? {items others : List Value} (h : List.Forall₂ SameUpToLeaves items others)
    (i : Nat) : Option.Rel SameUpToLeaves items[i]? others[i]? := by
  induction h generalizing i with
  | nil => exact .none
  | cons hvalue _ ih =>
      cases i with
      | zero => exact .some hvalue
      | succ i => exact ih i

/-- The same steps lead into both. -/
theorem at? (h : SameUpToLeaves v w) (step : Step) :
    Option.Rel SameUpToLeaves (v.at? step) (w.at? step) := by
  have hleaf {v : Value} (hv : v.kind = .leaf) : v.at? step = Option.none := by
    cases v with
    | list _ | mapping _ => cases hv
    | _ => rfl
  cases h with
  | nothing | truth _ => exact .none
  | leaf hv hw =>
      rw [hleaf hv, hleaf hw]
      exact .none
  | list h =>
      cases step with
      | entry name => exact .none
      | element i => exact getElem? h i
  | mapping keys values =>
      cases step with
      | entry name => exact atText? keys values name
      | element i => exact .none

/-- **Data that differ in texts and integers only have one outline.** -/
theorem outline_eq (h : SameUpToLeaves v w) : v.outline = w.outline := by
  funext steps
  induction steps generalizing v w with
  | nil => exact congrArg some h.kind_eq
  | cons step steps ih =>
      have hstep := h.at? step
      unfold outline reach
      generalize v.at? step = x, w.at? step = y at hstep
      cases hstep with
      | none => rfl
      | some hab => exact ih hab

end SameUpToLeaves

/-! ## Members of plain data -/

/-- The names of the attributes of texts and integers. -/
def leafAttributes : List String :=
  (Value.text "").attributes.map (·.1) ++ (Value.int 0).attributes.map (·.1)

/-- Whether a name reads no attribute of a text or an integer and, if it consists of digits, is a
number that can be read. -/
structure IsMemberName (name : String) : Prop where
  noAttribute : name ∉ leafAttributes
  digits : isIndexName name = true →
    name.toList.length ≤ digitLimit ∧ name.toList.all (fun c => (Text.decimalValue? c).isSome)

instance : DecidablePred IsMemberName := fun name =>
  decidable_of_iff (name ∉ leafAttributes ∧ (isIndexName name = true →
      name.toList.length ≤ digitLimit ∧
        name.toList.all (fun c => (Text.decimalValue? c).isSome)))
    ⟨fun ⟨noAttribute, digits⟩ => ⟨noAttribute, digits⟩, fun h => ⟨h.noAttribute, h.digits⟩⟩

example : ¬ IsMemberName "upper" ∧ IsMemberName "12" ∧ ¬ IsMemberName "\u00b2" := by
  decide +kernel

end Value

theorem Text.decimalValue?_lt {c : Char} {n : Nat} (h : decimalValue? c = some n) : n < 10 := by
  obtain ⟨first, hfirst, rfl⟩ := Option.map_eq_some_iff.1 h
  have hrange := List.find?_some hfirst
  simp only [Bool.and_eq_true, decide_eq_true_eq] at hrange
  omega

theorem Integer.isSome_digitValue? {c : Char} (h : (Text.decimalValue? c).isSome = true) :
    (digitValue? 10 c).isSome = true := by
  obtain ⟨n, hn⟩ := Option.isSome_iff_exists.1 h
  simp [digitValue?, hn, Option.filter, Text.decimalValue?_lt hn]

/-- Decimal digits, not too many, are the digits of a number. -/
theorem Integer.ofDigits_of_decimal {cs : List Char} (hne : cs ≠ [])
    (hlength : cs.length ≤ digitLimit) (h : ∀ c ∈ cs, (Text.decimalValue? c).isSome = true) :
    ∃ n, ofDigits 10 cs = .ok n := by
  have hrun : cs.takeWhile (fun c => (digitValue? 10 c).isSome) = cs :=
    List.takeWhile_eq_self_iff.2 fun c hc => isSome_digitValue? (h c hc)
  refine ⟨cs.foldl (fun n c => n * 10 + (digitValue? 10 c).getD 0) 0, ?_⟩
  unfold ofDigits
  rw [hrun, if_neg (by omega), if_neg (by simp [hne])]

namespace Value

theorem ne_nil_of_isIndexName {name : String} (h : isIndexName name = true) :
    name.toList ≠ [] := by
  intro hnil
  simp [isIndexName, String.toList_eq_nil_iff.1 hnil] at h

theorem lookup_attributes {name : String} (h : name ∉ leafAttributes) {v : Value}
    (hv : v.attributes.map (·.1) ⊆ leafAttributes) : v.attributes.lookup name = Option.none := by
  rw [List.lookup_eq_none_iff]
  intro a hmem
  have hne : name ≠ a.1 := fun heq => h (heq ▸ hv (List.mem_map_of_mem hmem))
  simpa using hne

/-- **A name finds what the kind of plain data decides**: the value one step inside, or nothing. -/
theorem member_eq {v : Value} {name : String} (hv : v.isPlain = true) (hname : IsMemberName name) :
    v.member name = .ok (((v.kind.step? name).bind v.at?).getD .none) := by
  have hscalar (hnames : v.attributes.map (·.1) ⊆ leafAttributes) :
      (if name.toList.head? = some '_' then .ok .none
        else .ok ((v.attributes.lookup name).getD .none) : Except Failure Value) = .ok .none := by
    rw [lookup_attributes hname.noAttribute hnames]
    split <;> rfl
  cases v with
  | none | mapping _ => rfl
  | bool b => exact hscalar (List.subset_append_right _ _)
  | int n => exact hscalar (List.subset_append_right _ _)
  | text s => exact hscalar (List.subset_append_left _ _)
  | list items =>
      have hitems : (list items).elements? = some items := rfl
      rw [member_of_elements hitems]
      unfold kind Kind.step?
      split
      · rename_i hindex
        obtain ⟨hlength, hdecimal⟩ := hname.digits hindex
        obtain ⟨i, hi⟩ := Integer.ofDigits_of_decimal (ne_nil_of_isIndexName hindex) hlength
          (List.all_eq_true.1 hdecimal)
        rw [hi]
        rfl
      · rfl
  | _ => cases hv

end Value

end Templating
