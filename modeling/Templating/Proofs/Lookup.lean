import Templating.Proofs.Outline

/-!
# What paths find

A name finds a member of a value or nothing (`Value.HasMember`), and a path finds what its names
find one after the other, in the data of the frame that it steps out to (`Frame.Finds`). Resolving a
path answers with what it finds, and with no value if it finds nothing. It is kept from that by a
name of digits that is looked up among numbered elements, and only if no number can be read from it
or the elements are more than can be counted (`Frame.Stumbles`). Hence a path answers in every frame
without such ranges exactly if its names of digits are numbers that can be read
(`Frame.answers_iff`).
-/

namespace Templating

namespace Value

/-- Whether a name is a number that can be read if it consists of digits: they are decimal digits,
and not too many. -/
def IsReadable (name : String) : Prop :=
  isIndexName name = true →
    name.toList.length ≤ digitLimit ∧ ∀ c ∈ name.toList, (Text.decimalValue? c).isSome = true

/-- What a name finds in a value. -/
inductive HasMember : Value → String → Value → Prop where
  /-- The entry of a mapping. -/
  | entry {entries : List (Value × Value)} {name : String} {w : Value}
      (hentry : atText? entries name = some w) : HasMember (.mapping entries) name w
  /-- The element under a number. -/
  | element {v w : Value} {items : List Value} {name : String} {i : Nat}
      (hitems : v.elements? = some items) (hcount : ¬ v.IsVast) (hindex : isIndexName name = true)
      (hnumber : Integer.ofDigits 10 name.toList = .ok i) (hi : items[i]? = some w) :
      HasMember v name w
  /-- An attribute that is not private. -/
  | field {v w : Value} {name : String} (hitems : v.elements? = Option.none)
      (hpublic : name.toList.head? ≠ some '_') (hattribute : v.attributes.lookup name = some w) :
      HasMember v name w

/-- What names find one after the other. -/
inductive Finds : Value → List String → Value → Prop where
  | here (v : Value) : Finds v [] v
  | inside {v w u : Value} {name : String} {names : List String} (hmember : v.HasMember name w)
      (rest : Finds w names u) : Finds v (name :: names) u

/-- Whether a value has numbered elements among which a name of digits cannot be looked up: it is no
readable number, or the elements are more than can be counted. -/
def Refuses (v : Value) (name : String) : Prop :=
  v.isIndexed = true ∧ isIndexName name = true ∧ (¬ IsReadable name ∨ v.IsVast)

/-- Whether the names lead to a value that refuses the next one. -/
def Stumbles (v : Value) (names : List String) : Prop :=
  ∃ before name after u, names = before ++ name :: after ∧ v.Finds before u ∧ u.Refuses name

/-- Whether the first names, before there are no more, lead to a range with more numbers than can be
counted. -/
def MeetsVast (v : Value) (names : List String) : Prop :=
  ∃ before name after u, names = before ++ name :: after ∧ v.Finds before u ∧ u.IsVast

end Value

namespace Frame

/-- What a path finds in the frame that it steps out to. -/
def Finds (f : Frame) (p : Path) (v : Value) : Prop :=
  ∃ data, f.dataAt? p.depth = some data ∧ data.Finds p.parts v

/-- Whether a path comes upon a name that cannot be looked up. -/
def Stumbles (f : Frame) (p : Path) : Prop :=
  ∃ data, f.dataAt? p.depth = some data ∧ data.Stumbles p.parts

/-- Whether a path goes through a range with more numbers than can be counted. -/
def MeetsVast (f : Frame) (p : Path) : Prop :=
  ∃ data, f.dataAt? p.depth = some data ∧ data.MeetsVast p.parts

/-- Whether a path is answered: with what it finds, or with no value if it finds nothing. -/
def Answers (f : Frame) (p : Path) : Prop :=
  ∃ v, f.resolve p = .ok v ∧ (f.Finds p v ∨ (v = .none ∧ ∀ w, ¬ f.Finds p w))

end Frame

/-! ## Numbers -/

/-- The digits of base ten are the decimal digits of all scripts: letters stand for larger ones. -/
theorem Integer.isSome_digitValue?_eq (c : Char) :
    (digitValue? 10 c).isSome = (Text.decimalValue? c).isSome := by
  refine Bool.eq_iff_iff.2 ⟨fun h => ?_, isSome_digitValue?⟩
  unfold digitValue? at h
  cases hdecimal : Text.decimalValue? c with
  | some n => rfl
  | none =>
      rw [hdecimal] at h
      have hge (d : Char) (hd : d ≤ c) : d.toNat ≤ c.toNat := hd
      have hlower := hge 'a'
      have hupper := hge 'A'
      grind

/-- Only decimal digits, and not too many, are read as a number. -/
theorem Integer.decimal_of_ofDigits {cs : List Char} {n : Nat} (h : ofDigits 10 cs = .ok n) :
    cs.length ≤ digitLimit ∧ ∀ c ∈ cs, (Text.decimalValue? c).isSome = true := by
  unfold ofDigits at h
  simp only [isSome_digitValue?_eq, true_and] at h
  split at h
  · cases h
  · rename_i hlimit
    split at h
    · cases h
    · rename_i hall
      have hself : cs.takeWhile (fun c => (Text.decimalValue? c).isSome) = cs := by
        have hprefix := List.takeWhile_prefix (l := cs) fun c => (Text.decimalValue? c).isSome
        exact hprefix.eq_of_length_le (by omega)
      rw [hself] at hlimit
      exact ⟨by omega, List.takeWhile_eq_self_iff.1 hself⟩

namespace Value

variable {v w : Value} {name : String} {names : List String}

theorem exists_ofDigits_iff (hindex : isIndexName name = true) :
    (∃ i, Integer.ofDigits 10 name.toList = .ok i) ↔ IsReadable name := by
  constructor
  · rintro ⟨i, hi⟩ -
    exact Integer.decimal_of_ofDigits hi
  · intro h
    obtain ⟨hlength, hdecimal⟩ := h hindex
    exact Integer.ofDigits_of_decimal (ne_nil_of_isIndexName hindex) hlength hdecimal

/-! ## Members -/

/-- A name looked up in a value without numbered elements. -/
theorem member_of_attributes (h : v.elements? = Option.none)
    (hmapping : ∀ entries, v ≠ .mapping entries) (name : String) :
    v.member name = if name.toList.head? = some '_' then .ok .none
      else .ok ((v.attributes.lookup name).getD .none) := by
  cases v with
  | none => exact (ite_self (.ok .none : Except Failure Value)).symm
  | mapping entries => exact absurd rfl (hmapping entries)
  | list _ | tuple _ | callableList _ _ | buffer _ | range _ => cases h
  | _ => rfl

theorem member_of_hasMember (h : v.HasMember name w) : v.member name = .ok w := by
  cases h with
  | entry hentry =>
      rw [member, hentry]
      rfl
  | @element _ _ items _ i hitems hcount hindex hnumber hi =>
      rw [member_of_elements hitems, if_pos hindex, hnumber, length_of_not_isVast hitems hcount]
      show Except.ok (items[i]?.getD .none) = _
      rw [hi]
      rfl
  | field hitems hpublic hattribute =>
      have hmapping : ∀ entries, v ≠ .mapping entries := by
        rintro entries rfl
        cases hattribute
      rw [member_of_attributes hitems hmapping, if_neg hpublic, hattribute]
      rfl

/-- A name that finds nothing gives no value, if it can be looked up. -/
theorem member_of_not_hasMember (haccepts : ¬ v.Refuses name)
    (h : ∀ w, ¬ v.HasMember name w) : v.member name = .ok .none := by
  cases hitems : v.elements? with
  | some items =>
      rw [member_of_elements hitems]
      split
      · rename_i hindex
        have hindexed := isIndexed_iff.2 ⟨items, hitems⟩
        obtain ⟨hname, hcount⟩ := not_or.1 fun hor => haccepts ⟨hindexed, hindex, hor⟩
        obtain ⟨i, hi⟩ := (exists_ofDigits_iff hindex).2 (not_not.1 hname)
        have hnone : items[i]? = Option.none :=
          Option.eq_none_iff_forall_ne_some.2 fun w hw => h w (.element hitems hcount hindex hi hw)
        rw [hi, length_of_not_isVast hitems hcount]
        show Except.ok (items[i]?.getD .none) = _
        rw [hnone]
        rfl
      · rfl
  | none =>
      by_cases hmapping : ∃ entries, v = .mapping entries
      · obtain ⟨entries, rfl⟩ := hmapping
        have hnone : atText? entries name = Option.none :=
          Option.eq_none_iff_forall_ne_some.2 fun w hw => h w (.entry hw)
        rw [member, hnone]
        rfl
      · rw [member_of_attributes hitems fun entries hv => hmapping ⟨entries, hv⟩]
        split
        · rfl
        · rename_i hpublic
          have hnone : v.attributes.lookup name = Option.none :=
            Option.eq_none_iff_forall_ne_some.2 fun w hw => h w (.field hitems hpublic hw)
          rw [hnone]
          rfl

theorem member_of_refuses (h : v.Refuses name) : ∃ e, v.member name = .error e := by
  obtain ⟨hindexed, hindex, hor⟩ := h
  obtain ⟨items, hitems⟩ := isIndexed_iff.1 hindexed
  rw [member_of_elements hitems, if_pos hindex]
  cases hnumber : Integer.ofDigits 10 name.toList with
  | error e => exact ⟨e, rfl⟩
  | ok i =>
      have hname : IsReadable name := (exists_ofDigits_iff hindex).1 ⟨i, hnumber⟩
      have hvast : v.IsVast := hor.resolve_left (not_not.2 hname)
      rw [length_of_isVast hvast]
      exact ⟨_, rfl⟩

/-! ## Names one after the other -/

theorem follow_of_finds (h : v.Finds names w) (more : List String) :
    v.follow (names ++ more) = w.follow more := by
  induction h with
  | here v => rfl
  | inside hmember _ ih =>
      rw [List.cons_append, follow, member_of_hasMember hmember]
      exact ih

theorem Stumbles.inside (hmember : v.HasMember name w) (h : w.Stumbles names) :
    v.Stumbles (name :: names) := by
  obtain ⟨before, next, after, u, rfl, hbefore, hnext⟩ := h
  exact ⟨name :: before, next, after, u, rfl, .inside hmember hbefore, hnext⟩

theorem follow_of_stumbles (h : v.Stumbles names) : ∃ e, v.follow names = .error e := by
  obtain ⟨before, name, after, u, rfl, hbefore, hname⟩ := h
  obtain ⟨e, he⟩ := member_of_refuses hname
  refine ⟨e, ?_⟩
  rw [follow_of_finds hbefore, follow, he]
  rfl

theorem follow_of_not_finds (hstumbles : ¬ v.Stumbles names) (h : ∀ w, ¬ v.Finds names w) :
    v.follow names = .ok .none := by
  induction names generalizing v with
  | nil => exact absurd (.here v) (h v)
  | cons name names ih =>
      by_cases hmember : ∃ w, v.HasMember name w
      · obtain ⟨w, hw⟩ := hmember
        rw [follow, member_of_hasMember hw]
        exact ih (fun hrest => hstumbles (hrest.inside hw)) fun u hu => h u (.inside hw hu)
      · -- Nothing is found here, and in no value nothing can be found.
        have haccepts : ¬ v.Refuses name := fun hname =>
          hstumbles ⟨[], name, names, v, rfl, .here v, hname⟩
        rw [follow, member_of_not_hasMember haccepts fun w hw => hmember ⟨w, hw⟩]
        exact follow_none names

/-- A value inside mappings inside each other. -/
def nested (v : Value) : List String → Value
  | [] => v
  | name :: names => .mapping [(.text name, nested v names)]

theorem finds_nested (v : Value) (names : List String) : (nested v names).Finds names v := by
  induction names with
  | nil => exact .here v
  | cons name names ih =>
      refine .inside (.entry ?_) ih
      simp [atText?, sameKey]

/-- In a list without elements nothing else is found, and so in mappings around it. -/
theorem not_isVast_of_finds {names before : List String} {u : Value}
    (h : (nested (.list []) names).Finds before u) : ¬ u.IsVast := by
  induction names generalizing before with
  | nil =>
      cases h with
      | here => exact nofun
      | inside hmember _ =>
          cases hmember with
          | element hitems _ _ _ hi =>
              cases hitems
              cases hi
          | field hitems _ _ => cases hitems
  | cons name names ih =>
      cases h with
      | here => exact nofun
      | inside hmember rest =>
          cases hmember with
          | entry hentry =>
              obtain ⟨e, he, rfl⟩ := Option.map_eq_some_iff.1 hentry
              obtain rfl := List.mem_singleton.1 (List.mem_of_find?_eq_some he)
              exact ih rest
          | element hitems _ _ _ _ => cases hitems
          | field _ _ hattribute => cases hattribute

/-- A range of as many numbers as cannot be counted any more. -/
def vastRange : IntRange where
  start := 0
  stop := lengthLimit

theorem isVast_vastRange : IsVast (.range vastRange) :=
  ⟨vastRange, rfl, by decide +kernel⟩

end Value

/-! ## Paths -/

namespace Frame

theorem resolve_of_data {f : Frame} {p : Path} {data : Value} (h : f.dataAt? p.depth = some data) :
    f.resolve p = data.follow p.parts := by
  rw [resolve, h]

/-- In one frame a path is answered unless it stumbles. -/
theorem answers_iff_not_stumbles (f : Frame) (p : Path) : f.Answers p ↔ ¬ f.Stumbles p := by
  constructor
  · rintro ⟨v, hv, -⟩ ⟨data, hdata, hstumbles⟩
    obtain ⟨e, he⟩ := Value.follow_of_stumbles hstumbles
    rw [resolve_of_data hdata, he] at hv
    cases hv
  · intro h
    cases hdata : f.dataAt? p.depth with
    | none =>
        refine ⟨.none, by rw [resolve, hdata], .inr ⟨rfl, ?_⟩⟩
        rintro w ⟨data, hsome, -⟩
        rw [hdata] at hsome
        cases hsome
    | some data =>
        by_cases hfinds : ∃ v, data.Finds p.parts v
        · obtain ⟨v, hv⟩ := hfinds
          refine ⟨v, ?_, .inl ⟨data, hdata, hv⟩⟩
          rw [resolve_of_data hdata, ← List.append_nil p.parts, Value.follow_of_finds hv]
          rfl
        · refine ⟨.none, ?_, .inr ⟨rfl, ?_⟩⟩
          · rw [resolve_of_data hdata]
            exact Value.follow_of_not_finds (fun hstumbles => h ⟨data, hdata, hstumbles⟩)
              fun w hw => hfinds ⟨w, hw⟩
          · rintro w ⟨data', hdata', hw⟩
            obtain rfl : data = data' := Option.some.inj (hdata.symm.trans hdata')
            exact hfinds ⟨w, hw⟩

/-- A frame in which names lead to a value, as are all frames around it. -/
def around (v : Value) (names : List String) (depth : Nat) : Frame where
  data := .nested v names
  outer := List.replicate depth (.nested v names)

theorem dataAt?_around (v : Value) (names : List String) (depth : Nat) :
    (around v names depth).dataAt? depth = some (.nested v names) := by
  show (Value.nested v names :: List.replicate depth _)[depth]? = _
  rw [← List.replicate_succ, List.getElem?_replicate_of_lt (by omega)]

/-- **When a path is answered**: with what it finds, and with no value if it finds nothing. Where no
range is too long to be counted this is so in every frame exactly if its names of digits are numbers
that can be read, and in every frame at all exactly if no name consists of digits. In a single frame
a path is kept from its answer where such a name cannot be looked up among numbered elements, and
nowhere else. -/
theorem answers_iff (p : Path) :
    ((∀ f : Frame, ¬ f.MeetsVast p → f.Answers p) ↔ ∀ name ∈ p.parts, Value.IsReadable name) ∧
      ((∀ f : Frame, f.Answers p) ↔ ∀ name ∈ p.parts, Value.isIndexName name = false) ∧
        ∀ f : Frame, f.Answers p ↔ ¬ f.Stumbles p := by
  refine ⟨⟨fun h name hname => ?_, fun h f hvast => ?_⟩, ⟨fun h name hname => ?_, fun h f => ?_⟩,
    fun f => f.answers_iff_not_stumbles p⟩
  · by_contra hunreadable
    -- Data that lead to an empty list, where the name is looked up.
    obtain ⟨before, after, hparts⟩ := List.append_of_mem hname
    let f := around (.list []) before p.depth
    have hdata : f.dataAt? p.depth = some (.nested (.list []) before) := dataAt?_around _ _ _
    have hvast : ¬ f.MeetsVast p := by
      rintro ⟨data, hsome, _, _, _, u, -, hfinds, hu⟩
      obtain rfl := Option.some.inj (hdata.symm.trans hsome)
      exact Value.not_isVast_of_finds hfinds hu
    have hindex : Value.isIndexName name = true := by
      by_contra hindex
      exact hunreadable fun hdigits => absurd hdigits hindex
    refine (f.answers_iff_not_stumbles p).1 (h f hvast) ⟨_, hdata, before, name, after, _, hparts,
      Value.finds_nested _ before, rfl, hindex, .inl hunreadable⟩
  · rw [answers_iff_not_stumbles]
    rintro ⟨data, hdata, before, name, after, u, hparts, hfinds, -, -, hname | hu⟩
    · exact hname (h name (by simp [hparts]))
    · exact hvast ⟨data, hdata, before, name, after, u, hparts, hfinds, hu⟩
  · by_contra hindex
    -- Data that lead to a range that is too long.
    obtain ⟨before, after, hparts⟩ := List.append_of_mem hname
    let f := around (.range Value.vastRange) before p.depth
    refine (f.answers_iff_not_stumbles p).1 (h f) ⟨_, dataAt?_around _ _ _, before, name, after, _,
      hparts, Value.finds_nested _ before, rfl, ?_, .inr Value.isVast_vastRange⟩
    exact eq_true_of_ne_false hindex
  · rw [answers_iff_not_stumbles]
    rintro ⟨data, -, before, name, after, u, hparts, -, -, hindex, -⟩
    rw [h name (by simp [hparts])] at hindex
    cases hindex

/-- A list under a name. -/
def listed : Frame where
  data := .mapping [(.text "x", .list [.int 1])]

/-- A name that consists of a digit which no number is written with. -/
def superscriptPath : Path where
  parts := ["x", "\u00b2"]
  written := "x.\u00b2"

theorem not_answers_superscript :
    Node.ofTemplate "\x7b\x7bx.\u00b2\x7d\x7d" = .ok (.program [.insertion superscriptPath []]) ∧
      listed.resolve superscriptPath = .error (.invalidInteger 10 "\u00b2") ∧
        ¬ listed.Answers superscriptPath := by
  have htemplate : Node.ofTemplate "\x7b\x7bx.\u00b2\x7d\x7d" =
      .ok (.program [.insertion superscriptPath []]) := by decide +kernel
  have hresolve : listed.resolve superscriptPath = .error (.invalidInteger 10 "\u00b2") := by
    rfl
  refine ⟨htemplate, hresolve, ?_⟩
  rintro ⟨v, hv, -⟩
  rw [hresolve] at hv
  cases hv

end Frame

end Templating
