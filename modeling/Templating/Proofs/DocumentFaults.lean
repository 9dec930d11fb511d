import Templating.Document.Content
import Templating.Proofs.Failing
import Templating.Proofs.Parsing

/-!
# What documents are refused for

A document is refused as malformed, or for a scalar or a key that no value can be made of; nothing
else goes wrong in it (`Document.failsAs_value`). The faults are followed through the three steps of
reading: what the reading of marks meets is kept as an unreadable mark, the parser reports that or
finds the marks in disorder, and building the value collects what single scalars and keys are
refused for.
-/

namespace Templating

/-- The failures of scalars and keys that no value can be made of. -/
inductive Failure.OfScalar : Failure → Prop where
  | codePointRange : OfScalar .codePointRange
  | emptyNumber : OfScalar .emptyNumber
  | digits {f : Failure} (h : f.OfDigits) : OfScalar f
  | invalidFloat (text : String) : OfScalar (.invalidFloat text)
  | missingKey (text : String) : OfScalar (.missingKey text)
  | invalidDate (problem : DateProblem) : OfScalar (.invalidDate problem)
  | unfitKey (typeName : String) : OfScalar (.unfitKey typeName)

/-- The user is not blamed for a scalar. -/
theorem Failure.OfScalar.isUserError {f : Failure} (h : f.OfScalar) : f.isUserError = false := by
  cases h with
  | digits h => cases h <;> rfl
  | _ => rfl

/-! ## Scalars -/

open Failure (OfScalar)

namespace Document

/-- Whether a fault is that of a malformed document or of a scalar or a key. -/
inductive Fault.Known : Fault → Prop where
  | malformed : Known .malformed
  | failure {f : Failure} (h : f.OfScalar) : Known (.failure f)

theorem failsAs_readSigned {α : Type} {negate : α → α} {magnitude : List Char → Except Failure α}
    (h : ∀ cs, FailsAs OfScalar (magnitude cs)) (s : String) :
    FailsAs OfScalar (readSigned negate magnitude s) := by
  unfold readSigned
  split
  · exact .emptyNumber
  · exact (h _).map fun _ _ => trivial
  · exact h _
  · exact h _

theorem failsAs_readInteger (s : String) : FailsAs OfScalar (readInteger s) := by
  have hdigits (base : Nat) (cs : List Char) : FailsAs OfScalar (Integer.ofText base cs) :=
    (Integer.failsAs_ofText base cs).imp fun _ => .digits
  refine failsAs_readSigned (fun cs => ?_) s
  split
  all_goals exact hdigits _ _

theorem failsAs_readFloat (s : String) : FailsAs OfScalar (readFloat s) := by
  refine failsAs_readSigned (fun cs => ?_) s
  dsimp only
  split
  · trivial
  · split
    · trivial
    · split
      · trivial
      · exact .invalidFloat _

theorem failsAs_readBoolean (s : String) : FailsAs OfScalar (readBoolean s) := by
  unfold readBoolean
  dsimp only
  split
  · trivial
  · exact .missingKey _

theorem failsAs_readDate (s : String) : FailsAs Fault.Known (readDate s) := by
  have hdate (x : Except DateProblem Value) :
      FailsAs Fault.Known (x.mapError fun p => .failure (.invalidDate p)) := by
    cases x with
    | ok _ => trivial
    | error p => exact .failure (.invalidDate p)
  unfold readDate
  split
  · exact .ite (hdate _) .malformed
  · split
    · exact .ite (hdate _) .malformed
    · exact .malformed
  · exact .malformed

/-- A scalar is read, or refused for what it is. -/
theorem ScalarType.failsAs_read (type : ScalarType) (s : String) :
    FailsAs Fault.Known (type.read s) := by
  have hscalar {α : Type} {x : Except Failure α} {f : α → Value} (h : FailsAs OfScalar x) :
      FailsAs Fault.Known ((x.map f).mapError .failure) :=
    (h.map fun _ _ => trivial).mapError fun _ => .failure
  cases type with
  | boolean => exact hscalar (failsAs_readBoolean s)
  | float => exact hscalar (failsAs_readFloat s)
  | integer => exact hscalar (failsAs_readInteger s)
  | date => exact failsAs_readDate s
  | null | text => trivial
  | merge | standIn => exact .malformed

/-! ## Values -/

/-- Whether all faults in a built node are known ones. -/
def Built.Known (b : Built) : Prop :=
  ∀ fault ∈ b.faults, fault.2.Known

namespace Built

variable {b k v : Built}

theorem known_value (v : Value) : Known { value := v } := by
  simp [Known]

theorem known_fault (depth : Nat) {f : Fault} (h : f.Known) : (fault depth f).Known := by
  simpa [Known, fault] using h

theorem Known.below (h : b.Known) : ∀ fault ∈ b.below, fault.2.Known := by
  intro fault hfault
  obtain ⟨f, hf, rfl⟩ := List.mem_map.1 hfault
  exact h f hf

theorem known_pairFaults (refuseTwice : Bool) (entries : List (Value × Value)) (hk : k.Known)
    (hv : v.Known) : ∀ fault ∈ pairFaults refuseTwice entries k v, fault.2.Known := by
  unfold pairFaults
  dsimp only
  intro fault hfault
  rcases List.mem_append.1 hfault with hfault | hrefused
  · rcases List.mem_append.1 hfault with hfault | hvalue
    · rcases List.mem_append.1 hfault with hkey | hnone
      · obtain ⟨f, hf, rfl⟩ := List.mem_map.1 hkey
        exact hk f hf
      · split at hnone
        · obtain rfl := List.mem_singleton.1 hnone
          exact .malformed
        · cases hnone
    · exact hv.below fault hvalue
  · split at hrefused
    · obtain rfl := List.mem_singleton.1 hrefused
      exact .failure (.unfitKey _)
    · split at hrefused
      · obtain rfl := List.mem_singleton.1 hrefused
        exact .malformed
      · cases hrefused

theorem known_ofPairs (refuseTwice : Bool) {pairs : List (Built × Built)}
    (h : ∀ pair ∈ pairs, pair.1.Known ∧ pair.2.Known) : (ofPairs refuseTwice pairs).Known := by
  refine List.foldlRecOn (motive := fun state : List (Value × Value) × List (Nat × Fault) =>
    ∀ fault ∈ state.2, fault.2.Known) pairs _ ?_ ?_
  · intro fault hfault
    cases hfault
  · intro state hstate pair hpair fault hfault
    obtain ⟨hk, hv⟩ := h pair hpair
    rcases List.mem_append.1 hfault with hfault | hfault
    · exact hstate fault hfault
    · exact known_pairFaults refuseTwice _ hk hv fault hfault

theorem known_ofItems {items : List Built} (h : ∀ b ∈ items, b.Known) : (ofItems items).Known := by
  intro fault hfault
  obtain ⟨b, hb, hfault⟩ := List.mem_flatMap.1 hfault
  exact (h b hb).below fault hfault

/-- The fault that is reported is one of those in the node. -/
theorem failsAs_toExcept (h : b.Known) : FailsAs Fault.Known b.toExcept := by
  unfold toExcept
  extract_lets least
  have hleast : ∀ f ∈ least, f.2.Known := by
    refine List.foldlRecOn (motive := fun best? : Option (Nat × Fault) =>
      ∀ f ∈ best?, f.2.Known) b.faults _ ?_ ?_
    · intro f hf
      cases hf
    · intro best? hbest fault hfault
      have hnew : ∀ f ∈ some fault, f.2.Known := by simpa using h fault hfault
      split
      · split
        · exact hnew
        · exact hbest
      · exact hnew
  clear_value least
  split
  · exact hleast _ rfl
  · trivial

end Built

namespace Tree

theorem known_misfit (tag : Option String) : (misfit tag).Known :=
  Built.known_fault _ .malformed

mutual

theorem known_build : ∀ t : Tree, t.build.Known
  | .scalar tag plain s => by
      unfold build
      split
      · exact known_misfit tag
      · rename_i type _
        have hread := type.failsAs_read s
        split
        · exact Built.known_value _
        · rename_i hfault
          exact Built.known_fault 0 (hread.of_error hfault)
  | .sequence tag items => by
      unfold build
      split
      · exact Built.known_ofItems (known_buildAll items)
      · exact known_misfit tag
  | .mapping tag merged own => by
      unfold build
      split
      · refine Built.known_ofPairs _ fun pair hpair => ?_
        rcases List.mem_append.1 hpair with hpair | hpair
        · exact known_buildPairs merged pair hpair
        · exact known_buildPairs own pair hpair
      · exact known_misfit tag
  | .wrongMerge => Built.known_fault 1 .malformed

theorem known_buildAll : ∀ ts : List Tree, ∀ b ∈ buildAll ts, b.Known
  | [] => by simp [buildAll]
  | t :: ts => by
      rw [buildAll]
      exact List.forall_mem_cons.2 ⟨known_build t, known_buildAll ts⟩

theorem known_buildPairs :
    ∀ pairs : List (Tree × Tree), ∀ pair ∈ buildPairs pairs, pair.1.Known ∧ pair.2.Known
  | [] => by simp [buildPairs]
  | (k, v) :: pairs => by
      rw [buildPairs]
      exact List.forall_mem_cons.2 ⟨⟨known_build k, known_build v⟩, known_buildPairs pairs⟩

end

end Tree

/-! ## Trees -/

/-- Whether a mark reports no fault but a known one. -/
def Mark.Known : Mark → Prop
  | .unreadable f => f.Known
  | _ => True

/-- Whether all marks that are left to the parser are known. -/
def Tree.Parse.Known (s : Parse) : Prop :=
  ∀ m ∈ s.marks, m.Known

namespace Tree.Parser

variable {α β : Type} {p : Parser α}

/-- Whether a parser that is given known marks fails with a known fault, if at all, and leaves known
marks. -/
def Tame (p : Parser α) : Prop :=
  ∀ s : Parse, s.Known → Meets (fun r => r.2.Known) Fault.Known (p s)

theorem Tame.bind {f : α → Parser β} (hp : p.Tame) (hf : ∀ a, (f a).Tame) : (p >>= f).Tame :=
  fun s hs => (hp s hs).bind fun r hr => hf r.1 r.2 hr

theorem tame_pure (a : α) : (pure a : Parser α).Tame :=
  fun _ hs => hs

theorem tame_throw {f : Fault} (h : f.Known) : (throw f : Parser α).Tame :=
  fun _ _ => h

theorem tame_refuse : (refuse : Parser α).Tame :=
  tame_throw .malformed

theorem Tame.get_bind {f : Parse → Parser α} (hf : ∀ s : Parse, s.Known → (f s).Tame) :
    (get >>= f).Tame :=
  fun s hs => hf s hs s hs

theorem tame_peek : peek.Tame := by
  refine Tame.get_bind fun s hs => ?_
  split
  · rename_i fault hhead
    exact tame_throw (hs _ (List.mem_of_mem_head? hhead))
  · exact tame_pure _

theorem tame_skip : skip.Tame :=
  fun _ hs m hm => hs m (List.mem_of_mem_drop hm)

theorem tame_take? (m : Mark) : (take? m).Tame := by
  refine tame_peek.bind fun next => ?_
  split
  · exact tame_skip.bind fun _ => tame_pure true
  · exact tame_pure false

theorem tame_expect (m : Mark) : (expect m).Tame := by
  refine (tame_take? m).bind fun taken => ?_
  cases taken with
  | true => exact tame_pure ()
  | false => exact tame_refuse

theorem tame_properties : properties.Tame := by
  refine tame_peek.bind fun first => ?_
  split
  · refine tame_skip.bind fun _ => tame_peek.bind fun second => ?_
    split
    · exact tame_skip.bind fun _ => tame_pure _
    · exact tame_pure _
  · refine tame_skip.bind fun _ => tame_peek.bind fun second => ?_
    split
    · exact tame_skip.bind fun _ => tame_pure _
    · exact tame_pure _
  · exact tame_pure _

theorem tame_remember (anchor : Option String) (t : Tree) : (remember anchor t).Tame := by
  cases anchor with
  | none => exact tame_pure t
  | some a => exact fun _ hs => hs

theorem tame_anchored (name : String) : (anchored name).Tame := by
  refine Tame.get_bind fun s _ => ?_
  split
  · exact tame_pure _
  · exact tame_refuse

-- Along the fuel, one theorem a function, as they call each other.
mutual

theorem tame_node : ∀ (fuel : Nat) (role : Role), (node fuel role).Tame
  | 0, _ => tame_refuse
  | fuel + 1, role => by
      have hfinish (anchor : Option String) (t : Tree) := tame_remember anchor t
      rw [node]
      refine tame_peek.bind fun first => ?_
      split
      · exact tame_skip.bind fun _ => tame_anchored _
      · refine tame_properties.bind fun (anchor, tag) => tame_peek.bind fun next => ?_
        dsimp only
        split
        · exact tame_skip.bind fun _ => hfinish _ _
        · exact tame_skip.bind fun _ => (tame_flowItems fuel _ _).bind fun _ => hfinish _ _
        · exact tame_skip.bind fun _ => (tame_flowPairs fuel _ _).bind fun _ => hfinish _ _
        · split
          · exact (tame_looseEntries fuel _).bind fun _ => hfinish _ _
          · split
            · exact tame_skip.bind fun _ => (tame_entries fuel _).bind fun _ => hfinish _ _
            · split
              · exact tame_skip.bind fun _ => (tame_pairs fuel _).bind fun _ => hfinish _ _
              · split
                · exact hfinish _ _
                · exact tame_refuse.bind fun _ => hfinish _ _

theorem tame_nodeBefore :
    ∀ (fuel : Nat) (role : Role) (ends : List Mark), (nodeBefore fuel role ends).Tame
  | 0, _, _ => tame_refuse
  | fuel + 1, role, ends => by
      rw [nodeBefore]
      refine tame_peek.bind fun next => ?_
      split
      · split
        · exact tame_pure _
        · exact tame_node fuel role
      · exact tame_refuse

theorem tame_entries : ∀ (fuel : Nat) (done : List Tree), (entries fuel done).Tame
  | 0, _ => tame_refuse
  | fuel + 1, done => by
      rw [entries]
      refine (tame_take? _).bind fun taken => ?_
      split
      · exact (tame_nodeBefore fuel _ _).bind fun t => tame_entries fuel (t :: done)
      · exact (tame_expect _).bind fun _ => tame_pure _

theorem tame_looseEntries : ∀ (fuel : Nat) (done : List Tree), (looseEntries fuel done).Tame
  | 0, _ => tame_refuse
  | fuel + 1, done => by
      rw [looseEntries]
      refine (tame_take? _).bind fun taken => ?_
      split
      · exact (tame_nodeBefore fuel _ _).bind fun t => tame_looseEntries fuel (t :: done)
      · exact tame_pure _

theorem tame_pairs : ∀ (fuel : Nat) (done : List (Tree × Tree)), (pairs fuel done).Tame
  | 0, _ => tame_refuse
  | fuel + 1, done => by
      rw [pairs]
      refine (tame_take? _).bind fun taken => ?_
      split
      · exact (tame_nodeBefore fuel _ _).bind fun _ => (tame_value fuel _ _).bind fun _ =>
          tame_pairs fuel _
      · refine tame_peek.bind fun next => ?_
        split
        · exact (tame_value fuel _ _).bind fun _ => tame_pairs fuel _
        · exact (tame_expect _).bind fun _ => tame_pure _

theorem tame_value : ∀ (fuel : Nat) (role : Role) (ends : List Mark), (value fuel role ends).Tame
  | 0, _, _ => tame_refuse
  | fuel + 1, role, ends => by
      rw [value]
      refine (tame_take? _).bind fun taken => ?_
      split
      · exact tame_nodeBefore fuel role ends
      · exact tame_pure _

theorem tame_flowItems :
    ∀ (fuel : Nat) (first : Bool) (done : List Tree), (flowItems fuel first done).Tame
  | 0, _, _ => tame_refuse
  | fuel + 1, first, done => by
      rw [flowItems]
      refine (tame_take? _).bind fun ended => ?_
      split
      · exact tame_pure _
      · extract_lets item
        have hitem (u : Unit) : (item u).Tame := by
          refine (tame_take? _).bind fun isKey => ?_
          split
          · exact (tame_nodeBefore fuel _ _).bind fun _ => (tame_value fuel _ _).bind fun _ =>
              tame_flowItems fuel false _
          · refine (tame_take? _).bind fun ended => ?_
            split
            · exact tame_pure _
            · exact (tame_node fuel _).bind fun _ => tame_flowItems fuel false _
        split
        · exact hitem ()
        · exact (tame_expect _).bind hitem

theorem tame_flowPairs :
    ∀ (fuel : Nat) (first : Bool) (done : List (Tree × Tree)), (flowPairs fuel first done).Tame
  | 0, _, _ => tame_refuse
  | fuel + 1, first, done => by
      rw [flowPairs]
      refine (tame_take? _).bind fun ended => ?_
      split
      · exact tame_pure _
      · extract_lets ends pair
        have hpair (u : Unit) : (pair u).Tame := by
          refine (tame_take? _).bind fun isKey => ?_
          split
          · exact (tame_nodeBefore fuel _ _).bind fun _ => (tame_value fuel _ _).bind fun _ =>
              tame_flowPairs fuel false _
          · refine tame_peek.bind fun next => ?_
            split
            · exact (tame_value fuel _ _).bind fun _ => tame_flowPairs fuel false _
            · refine (tame_take? _).bind fun ended => ?_
              split
              · exact tame_pure _
              · exact (tame_node fuel _).bind fun _ => tame_flowPairs fuel false _
        split
        · exact hpair ()
        · exact (tame_expect _).bind hpair

end

theorem tame_content (fuel : Nat) : (content fuel).Tame := by
  refine tame_peek.bind fun next => ?_
  split
  iterate 4 exact tame_pure _
  exact tame_node fuel .block

theorem tame_document (fuel : Nat) : (document fuel).Tame := by
  refine tame_peek.bind fun next => ?_
  extract_lets finish
  have hfinish (t : Tree) : (finish t).Tame := by
    refine (tame_take? _).bind fun _ => tame_peek.bind fun more => ?_
    split
    · exact tame_pure _
    · exact tame_refuse
  split
  · exact hfinish _
  · exact tame_skip.bind fun _ => (tame_expect _).bind fun _ => (tame_content fuel).bind hfinish
  · exact tame_skip.bind fun _ => (tame_content fuel).bind hfinish
  · exact (tame_node fuel _).bind hfinish

end Tree.Parser

/-- The parser reports only what the marks report, or that the document is malformed. -/
theorem Tree.failsAs_ofMarks {marks : List Mark} (h : ∀ m ∈ marks, m.Known) :
    FailsAs Fault.Known (ofMarks marks) :=
  (Parser.tame_document _ { marks := marks } h).map fun _ _ => trivial

/-! ## Marks -/

/-- Only an escape for a number beyond all characters is not malformed and yet refused. -/
theorem failsAs_numericEscape (width : Nat) (cs : List Char) :
    FailsAs Fault.Known (numericEscape width cs) := by
  unfold numericEscape
  split
  · exact .malformed
  · refine .ite (.failure .codePointRange) (.ite ?_ (.ite trivial trivial))
    split
    · trivial
    · trivial

theorem failsAs_quotedBreaks (fuel : Nat) (cs : List Char) :
    FailsAs Fault.Known (quotedBreaks fuel cs) := by
  induction fuel generalizing cs with
  | zero => exact .malformed
  | succ fuel ih =>
      rw [quotedBreaks]
      refine .ite .malformed ?_
      dsimp only
      split
      · exact (ih _).bind fun _ _ => trivial
      · trivial

theorem failsAs_quotedFrom (double : Bool) (fuel : Nat) (cs : List Char) :
    FailsAs Fault.Known (quotedFrom double fuel cs) := by
  induction fuel generalizing cs with
  | zero => exact .malformed
  | succ fuel ih =>
      unfold quotedFrom
      extract_lets more
      have hmore (content rest : List Char) : FailsAs Fault.Known (more content rest) :=
        (ih rest).bind fun _ _ => trivial
      split
      · exact .malformed
      · refine .ite ?_ (.ite (.ite trivial (.ite ?_ (hmore _ _))) (.ite ?_ (hmore _ _)))
        · dsimp only
          split
          · exact (failsAs_quotedBreaks _ _).bind fun _ _ => hmore _ _
          · exact .ite .malformed (hmore _ _)
        · split
          · exact .malformed
          · split
            · exact hmore _ _
            · exact (failsAs_numericEscape _ _).bind fun _ _ => hmore _ _
            · exact (failsAs_quotedBreaks _ _).bind fun _ _ => hmore _ _
            · exact .malformed
        · split
          · exact hmore _ _
          · trivial

theorem failsAs_quotedScalar (double : Bool) (cs : List Char) :
    FailsAs Fault.Known (quotedScalar double cs) :=
  failsAs_quotedFrom double _ cs

theorem failsAs_blockHeader (p : Place) (cs : List Char) :
    FailsAs Fault.Known (blockHeader p cs) := by
  unfold blockHeader
  dsimp only
  refine .ite .malformed ?_
  split
  · trivial
  · trivial

theorem failsAs_blockScalar (folded : Bool) (outer : Int) (p : Place) (cs : List Char) :
    FailsAs Fault.Known (blockScalar folded outer p cs) :=
  (failsAs_blockHeader p cs).bind fun _ _ => trivial

/-- Whether all marks that have been read are known. -/
def Reading.Known (r : Reading) : Prop :=
  ∀ m ∈ r.marks, m.Known

/-- Whether a step of reading goes on with known marks, or fails with a known fault. -/
abbrev Reading.Proceeds (x : Except Fault Reading) : Prop :=
  Meets Reading.Known Fault.Known x

namespace Reading

variable {r : Reading} {m : Mark}

theorem Known.push (hr : r.Known) (hm : m.Known) : (r.push m).Known := by
  intro m' hm'
  rcases Array.mem_push.1 hm' with hm' | rfl
  · exact hr m' hm'
  · exact hm

theorem Known.insert (hr : r.Known) (n : Nat) (hm : m.Known) : (r.insert n m).Known := by
  intro m' hm'
  have hor : m' = m ∨ m' ∈ r.marks := by
    simp only [Reading.insert, Array.insertIdxIfInBounds] at hm'
    split at hm'
    · exact Array.mem_insertIdx.1 hm'
    · exact .inr hm'
  rcases hor with rfl | hm'
  · exact hm
  · exact hr m' hm'

theorem Known.closeDeeper (hr : r.Known) (column : Int) : (r.closeDeeper column).Known := by
  unfold Reading.closeDeeper
  split
  · exact hr
  · intro m hm
    rcases Array.mem_append.1 hm with hm | hm
    · exact hr m hm
    · obtain rfl := Array.eq_of_mem_replicate hm
      trivial

theorem Known.opening (hr : r.Known) (column : Nat) : (r.opening column).2.Known := by
  unfold Reading.opening
  split
  · exact hr
  · exact hr

theorem proceeds_dropCandidate (hr : r.Known) : Proceeds r.dropCandidate :=
  .ite .malformed hr

theorem proceeds_dropStale (hr : r.Known) : Proceeds r.dropStale :=
  .ite .malformed hr

theorem proceeds_addCandidate (hr : r.Known) : Proceeds r.addCandidate := by
  unfold addCandidate
  refine .ite hr ?_
  exact (proceeds_dropCandidate hr).bind fun _ hr => hr

theorem proceeds_directive (hr : r.Known) : Proceeds r.directive := by
  refine .ite .malformed ?_
  exact (proceeds_dropCandidate (hr.closeDeeper _)).bind fun r hr => Known.push hr trivial

theorem proceeds_separator (hr : r.Known) : Proceeds r.separator := by
  refine (proceeds_dropCandidate (hr.closeDeeper _)).bind fun r hr => Known.push hr ?_
  split
  · trivial
  · trivial

theorem proceeds_openBracket (hr : r.Known) (b : Bracket) (hm : m.Known) :
    Proceeds (r.openBracket b m) :=
  (proceeds_addCandidate hr).bind fun _ hr => Known.push hr hm

theorem proceeds_closeBracket (hr : r.Known) (hm : m.Known) : Proceeds (r.closeBracket m) := by
  refine (proceeds_dropCandidate hr).bind fun r hr => Known.push ?_ hm
  cases hes : r.enclosures with
  | nil => exact hr
  | cons e es => exact hr

theorem proceeds_comma (hr : r.Known) : Proceeds r.comma :=
  (proceeds_dropCandidate hr).bind fun _ hr => Known.push hr trivial

theorem proceeds_begin (hr : r.Known) (hm : m.Known) : Proceeds (r.begin m) := by
  refine .ite .malformed ?_
  have hopening := hr.opening r.place.column
  show Known (if (r.opening r.place.column).1 then (r.opening r.place.column).2.push m
    else (r.opening r.place.column).2)
  split
  · exact hopening.push hm
  · exact hopening

theorem proceeds_dash (hr : r.Known) : Proceeds r.dash :=
  (proceeds_begin (m := .blockSequence) hr trivial).bind fun _ hr =>
    (proceeds_dropCandidate hr).bind fun _ hr => Known.push hr trivial

theorem proceeds_keySign (hr : r.Known) : Proceeds r.keySign :=
  (proceeds_begin (m := .blockMapping) hr trivial).bind fun _ hr =>
    (proceeds_dropCandidate hr).bind fun _ hr => Known.push hr trivial

theorem proceeds_colon (hr : r.Known) : Proceeds r.colon := by
  unfold colon
  extract_lets finish
  have hfinish (r : Reading) (hr : r.Known) : Proceeds (finish r) := hr.push (m := .value) trivial
  split
  · rename_i c _
    have hnone : Known { r with candidate := none } := hr
    have hkey := (hnone.opening c.place.column).insert c.before (m := .key) trivial
    refine hfinish _ ?_
    show Known (if ({ r with candidate := none }.opening c.place.column).1 then _ else _)
    split
    · exact hkey.insert _ trivial
    · exact hkey
  · exact (proceeds_begin (m := .blockMapping) hr trivial).bind hfinish

theorem proceeds_anchor (hr : r.Known) {mark : String → Mark} (hmark : ∀ s, (mark s).Known) :
    Proceeds (r.anchor mark) := by
  refine (proceeds_addCandidate hr).bind fun r hr => ?_
  exact .ite .malformed (Known.push hr (hmark _))

theorem failsAs_tagSuffix (cs : List Char) : FailsAs Fault.Known (tagSuffix cs) := by
  unfold tagSuffix
  dsimp only
  split
  · exact .malformed
  · exact .malformed
  · split
    · exact .malformed
    · trivial

theorem failsAs_tagName (cs : List Char) : FailsAs Fault.Known (tagName cs) := by
  unfold tagName
  refine .ite ?_ (.ite trivial (.ite (.ite ?_ .malformed) ?_))
  · exact (failsAs_tagSuffix _).bind fun _ _ => .ite trivial .malformed
  · exact (failsAs_tagSuffix _).bind fun _ _ => trivial
  · exact (failsAs_tagSuffix _).bind fun _ _ => trivial

theorem proceeds_tag (hr : r.Known) : Proceeds r.tag := by
  refine (proceeds_addCandidate hr).bind fun r hr => ?_
  refine (failsAs_tagName _).bind fun _ _ => ?_
  exact .ite .malformed (Known.push hr trivial)

theorem proceeds_blockText (hr : r.Known) (folded : Bool) : Proceeds (r.blockText folded) := by
  have hallowing : (r.allowing true).Known := hr
  refine (proceeds_dropCandidate hallowing).bind fun r hr => ?_
  exact (failsAs_blockScalar _ _ _ _).bind fun _ _ => Known.push hr trivial

theorem proceeds_quoted (hr : r.Known) (double : Bool) : Proceeds (r.quoted double) := by
  refine (proceeds_addCandidate hr).bind fun r hr => ?_
  exact (failsAs_quotedScalar _ _).bind fun _ _ => Known.push hr trivial

theorem marks_plainFrom (margin fuel : Nat) (space : List Char) (r : Reading) :
    (plainFrom margin fuel space r).2.marks = r.marks := by
  induction fuel generalizing space r with
  | zero => rfl
  | succ fuel ih =>
      rw [plainFrom]
      dsimp only
      split
      · rfl
      · split
        · rfl
        · exact ih _ _

theorem proceeds_plain (hr : r.Known) : Proceeds r.plain := by
  refine (proceeds_addCandidate hr).bind fun r hr => ?_
  have hmarks := marks_plainFrom (r.indent + 1).toNat (r.rest.length + 1) [] (r.allowing false)
  exact Known.push (fun m hm => hr m (hmarks ▸ hm)) trivial

/-- Each sign is read with known marks only. -/
theorem proceeds_next (hr : r.Known) (afterValue : Bool) (c : Char) (cs : List Char) :
    Proceeds (r.next afterValue c cs) :=
  .ite (proceeds_directive hr) <|
  .ite (proceeds_separator hr) <|
  .ite (proceeds_openBracket hr _ trivial) <|
  .ite (proceeds_openBracket hr _ trivial) <|
  .ite (proceeds_closeBracket hr trivial) <|
  .ite (proceeds_closeBracket hr trivial) <|
  .ite (proceeds_comma hr) <|
  .ite (proceeds_dash hr) <|
  .ite (proceeds_keySign hr) <|
  .ite (proceeds_colon hr) <|
  .ite (proceeds_anchor hr fun _ => trivial) <|
  .ite (proceeds_anchor hr fun _ => trivial) <|
  .ite (proceeds_tag hr) <|
  .ite (proceeds_blockText hr _) <|
  .ite (proceeds_quoted hr _) <|
  .ite (proceeds_plain hr) .malformed

theorem proceeds_prepare (hr : r.Known) : Meets (fun p => p.2.Known) Fault.Known r.prepare := by
  refine (proceeds_dropStale hr).bind fun r hr => ?_
  have hgap : r.skipGap.Known := hr
  exact (proceeds_dropStale hgap).bind fun r hr => hr.closeDeeper _

theorem known_breakOff (hr : r.Known) {f : Fault} (hf : f.Known) :
    ∀ m ∈ r.breakOff f, m.Known := by
  intro m hm
  rcases Array.mem_push.1 hm with hm | rfl
  · rw [Array.take_eq_extract, Array.mem_extract_iff_getElem] at hm
    obtain ⟨i, _, rfl⟩ := hm
    exact hr _ (Array.getElem_mem _)
  · exact hf

theorem known_toMarks (fuel : Nat) (hr : r.Known) : ∀ m ∈ r.toMarks fuel, m.Known := by
  -- The marks so far stay known; what stops the reading adds one mark for a known fault.
  induction fuel generalizing r with
  | zero => exact known_breakOff hr .malformed
  | succ fuel ih =>
      have hprepare := proceeds_prepare hr
      rw [toMarks]
      split
      · rename_i f hf
        exact known_breakOff hr (hprepare.of_error hf)
      · rename_i afterValue r' hr'
        have hr' : r'.Known := hprepare.of_ok hr'
        split
        · have hend := proceeds_dropCandidate (hr'.closeDeeper (-1))
          split
          · rename_i f hf
            exact known_breakOff hr' (hend.of_error hf)
          · rename_i last hlast
            exact hend.of_ok hlast
        · rename_i c cs _
          have hnext := proceeds_next hr' afterValue c cs
          split
          · rename_i f hf
            exact known_breakOff hr' (hnext.of_error hf)
          · rename_i next hr
            exact ih (hnext.of_ok hr)

end Reading

theorem Mark.known_ofText (text : List Char) : ∀ m ∈ Mark.ofText text, m.Known := by
  unfold Mark.ofText
  split
  · simp [Mark.Known, Fault.Known.malformed]
  · refine Reading.known_toMarks _ ?_
    split
    · simp [Reading.Known, Reading.advance]
    · simp [Reading.Known]

/-- **A document is refused as malformed, or for a scalar or a key.** -/
theorem failsAs_value (text : List Char) : FailsAs Fault.Known (value text) := by
  have hmarks : ∀ m ∈ (Mark.ofText text).toList, m.Known :=
    fun m hm => Mark.known_ofText text m (Array.mem_toList_iff.1 hm)
  exact (Tree.failsAs_ofMarks hmarks).bind fun tree _ => Built.failsAs_toExcept (Tree.known_build _)

end Document

end Templating
