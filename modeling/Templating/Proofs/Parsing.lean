import Templating.Proofs.Grammar

/-!
# The parser and the grammar

The parser finds exactly the trees that the grammar derives. Soundness reads a derivation off a
successful call, each parsing function by a lemma of its own. Completeness goes the other way: what
is derived, followed by tokens that cannot continue it, is parsed and leaves those tokens. As the
parser is a function, a derived tree is unique.
-/

namespace Templating

open Grammar

theorem bind_eq_ok {ε α β : Type} {x : Except ε α} {f : α → Except ε β} {b : β} :
    x >>= f = .ok b ↔ ∃ a, x = .ok a ∧ f a = .ok b := by
  cases x <;> simp [bind, Except.bind]

theorem map_eq_ok {ε α β : Type} {x : Except ε α} {f : α → β} {b : β} :
    x.map f = .ok b ↔ ∃ a, x = .ok a ∧ f a = b := by
  cases x <;> simp [Except.map]

/-! ## Paths -/

namespace Grammar

@[simp] theorem withoutThis_nil : withoutThis [] = [] := rfl

@[simp] theorem withoutThis_parent (texts : List String) :
    withoutThis (Path.parentSegment :: texts) = Path.parentSegment :: withoutThis texts := by
  simp [withoutThis]

@[simp] theorem withoutThis_this (texts : List String) :
    withoutThis (Path.thisSegment :: texts) = texts := by
  have h : Path.thisSegment ≠ Path.parentSegment := by decide
  simp [withoutThis, h]

theorem withoutThis_name {text : String} (hparent : text ≠ Path.parentSegment)
    (hthis : text ≠ Path.thisSegment) (texts : List String) :
    withoutThis (text :: texts) = text :: texts := by
  simp [withoutThis, hparent, hthis]

/-- The tokens of further segments, each with the separator before it. -/
def spread (more : List (Token × Token)) : List Token :=
  more.flatMap fun s => [s.1, s.2]

@[simp] theorem spread_nil : spread [] = [] := rfl

@[simp] theorem spread_cons (s : Token × Token) (more : List (Token × Token)) :
    spread (s :: more) = s.1 :: s.2 :: spread more := rfl

/-- Whether each pair is a separator and a word. -/
def AreSegments (more : List (Token × Token)) : Prop :=
  ∀ s ∈ more, s.1.kind = .separator ∧ s.2.kind = .word

theorem segments_spread {first : Token} (hfirst : first.kind = .word)
    {more : List (Token × Token)} (hmore : AreSegments more) :
    Segments (first :: spread more) (first.text :: more.map (·.2.text)) := by
  induction more generalizing first with
  | nil => exact .one hfirst
  | cons s more ih =>
      have hs := hmore s (by simp)
      exact .more hfirst hs.1 (ih hs.2 fun s' hs' => hmore s' (by simp [hs']))

theorem Segments.texts_unique {ts : List Token} {texts texts' : List String}
    (h : Segments ts texts) (h' : Segments ts texts') : texts = texts' := by
  induction h generalizing texts' with
  | one _ => cases h'; rfl
  | more _ _ _ ih =>
      cases h' with
      | more _ _ rest => rw [ih rest]

theorem exists_spread {ts : List Token} {texts : List String} (h : Segments ts texts) :
    ∃ first more, ts = first :: spread more ∧ texts = first.text :: more.map (·.2.text) ∧
      first.kind = .word ∧ AreSegments more := by
  induction h with
  | @one word hword => exact ⟨word, [], rfl, rfl, hword, by simp [AreSegments]⟩
  | @more word separator _ _ hword hseparator _ ih =>
      obtain ⟨first, more, rfl, rfl, hfirst, hmore⟩ := ih
      refine ⟨word, (separator, first) :: more, rfl, rfl, hword, ?_⟩
      intro s hs
      rcases List.mem_cons.1 hs with rfl | hs
      · exact ⟨hseparator, hfirst⟩
      · exact hmore s hs

end Grammar

namespace Path

theorem names_eq_ok_iff {ts : List Token} {parts : List String} :
    names ts = .ok parts ↔ parts = ts.map (·.text) ∧ parentSegment ∉ parts := by
  unfold names
  cases h : ts.find? (·.text = parentSegment) with
  | some t =>
      have ht : t ∈ ts := List.mem_of_find?_eq_some h
      have htext : t.text = parentSegment := by simpa using List.find?_some h
      simp only [reduceCtorEq, false_iff, not_and, not_not]
      rintro rfl
      exact List.mem_map.2 ⟨t, ht, htext⟩
  | none =>
      have hnone : parentSegment ∉ ts.map (·.text) := by
        simpa [List.find?_eq_none] using h
      constructor
      · rintro ⟨⟩
        exact ⟨rfl, hnone⟩
      · rintro ⟨rfl, -⟩
        rfl

/-- After a `this` only steps to parents and names are left. -/
theorem steps_false_eq_ok_iff {ts : List Token} {depth depth' : Nat} {parts : List String} :
    steps false depth ts = .ok (depth', parts) ↔
      ∃ k, depth' = depth + k ∧ ts.map (·.text) = List.replicate k parentSegment ++ parts ∧
        parentSegment ∉ parts := by
  induction ts generalizing depth with
  | nil =>
      simp only [steps, Except.ok.injEq, Prod.mk.injEq, List.map_nil, List.nil_eq,
        List.append_eq_nil_iff, List.replicate_eq_nil_iff]
      constructor
      · rintro ⟨rfl, rfl⟩
        exact ⟨0, rfl, ⟨rfl, rfl⟩, by simp⟩
      · rintro ⟨k, rfl, ⟨rfl, rfl⟩, -⟩
        exact ⟨rfl, rfl⟩
  | cons t ts ih =>
      by_cases ht : t.text = parentSegment
      · rw [steps, if_pos ht, ih]
        constructor
        · rintro ⟨k, rfl, htexts, hparts⟩
          exact ⟨k + 1, by omega, by simp [List.replicate_succ, ht, htexts], hparts⟩
        · rintro ⟨k, rfl, htexts, hparts⟩
          cases k with
          | zero =>
              rw [List.replicate_zero, List.nil_append] at htexts
              exact absurd (by simp [← htexts, ht]) hparts
          | succ k =>
              rw [List.replicate_succ, List.cons_append, List.map_cons, List.cons.injEq] at htexts
              exact ⟨k, by omega, htexts.2, hparts⟩
      · rw [steps, if_neg ht, if_neg (by simp), map_eq_ok]
        simp only [names_eq_ok_iff, Prod.mk.injEq]
        constructor
        · rintro ⟨_, ⟨rfl, hparts⟩, rfl, rfl⟩
          exact ⟨0, rfl, rfl, hparts⟩
        · rintro ⟨k, rfl, htexts, hparts⟩
          cases k with
          | zero => exact ⟨_, ⟨by simpa using htexts.symm, hparts⟩, by simp⟩
          | succ k =>
              rw [List.replicate_succ, List.cons_append, List.map_cons, List.cons.injEq] at htexts
              exact absurd htexts.1 ht

theorem steps_eq_ok_iff {ts : List Token} {depth depth' : Nat} {parts : List String} :
    steps true depth ts = .ok (depth', parts) ↔
      ∃ k, depth' = depth + k ∧
        withoutThis (ts.map (·.text)) = List.replicate k parentSegment ++ parts ∧
        parentSegment ∉ parts := by
  induction ts generalizing depth with
  | nil =>
      have h : steps false depth [] = .ok (depth', parts) ↔ _ := steps_false_eq_ok_iff
      simpa [steps] using h
  | cons t ts ih =>
      by_cases hparent : t.text = parentSegment
      · rw [steps, if_pos hparent, ih, List.map_cons, hparent, withoutThis_parent]
        constructor
        · rintro ⟨k, rfl, htexts, hparts⟩
          exact ⟨k + 1, by omega, by rw [htexts]; rfl, hparts⟩
        · rintro ⟨k, rfl, htexts, hparts⟩
          cases k with
          | zero =>
              rw [List.replicate_zero, List.nil_append] at htexts
              exact absurd (by simp [← htexts]) hparts
          | succ k =>
              rw [List.replicate_succ, List.cons_append, List.cons.injEq] at htexts
              exact ⟨k, by omega, htexts.2, hparts⟩
      · by_cases hthis : t.text = thisSegment
        · rw [steps, if_neg hparent, if_pos ⟨hthis, rfl⟩, steps_false_eq_ok_iff, List.map_cons,
            hthis, withoutThis_this]
        · have hsteps : steps true depth (t :: ts) = steps false depth (t :: ts) := by
            simp [steps, hparent, hthis]
          rw [hsteps, steps_false_eq_ok_iff, List.map_cons, withoutThis_name hparent hthis]

theorem writtenOf_eq_join (first : Token) (more : List (Token × Token)) :
    writtenOf first more = String.join ((first :: spread more).map (·.text)) := by
  have h (text : String) :
      more.foldl (fun text s => text ++ s.1.text ++ s.2.text) text =
        text ++ String.join ((spread more).map (·.text)) := by
    induction more generalizing text with
    | nil => simp
    | cons s more ih =>
        rw [List.foldl_cons, ih]
        simp [String.append_assoc]
  rw [List.map_cons, String.join_cons]
  exact h first.text

/-- The path of segments is the one that the grammar derives. -/
theorem ofSegments_eq_ok_iff {first : Token} (hfirst : first.kind = .word)
    {more : List (Token × Token)} (hmore : AreSegments more) {p : Path} :
    ofSegments first more = .ok p ↔ IsPath (first :: spread more) p := by
  have htexts : (first :: more.map (·.2)).map (·.text) = first.text :: more.map (·.2.text) := by
    simp
  unfold ofSegments
  rw [map_eq_ok]
  constructor
  · rintro ⟨⟨depth, parts⟩, hsteps, rfl⟩
    obtain ⟨k, hk, hwithout, hparts⟩ := steps_eq_ok_iff.1 hsteps
    rw [writtenOf_eq_join]
    rw [htexts] at hwithout
    rw [show depth = k by omega]
    exact .intro (segments_spread hfirst hmore) hwithout hparts
  · intro h
    cases h with
    | @intro texts parts depth segments steps names =>
        have h := (segments_spread hfirst hmore).texts_unique segments
        refine ⟨(depth, parts), steps_eq_ok_iff.2 ⟨depth, by omega, ?_, names⟩, ?_⟩
        · rw [htexts, h]
          exact steps
        · rw [writtenOf_eq_join]

end Path

namespace Node.Parser

variable {stop : Token} {ts rest : List Token}

/-- A parsing function hands back the value and leaves the tokens. -/
def Yields {α : Type} {bound : Nat} (x : Except GrammarError (Taken α bound)) (a : α)
    (rest : List Token) : Prop :=
  ∃ h, x = .ok ⟨a, rest, h⟩

section Yields

variable {α β : Type} {m n : Nat}

@[simp] theorem yields_ok_iff {t : Taken α n} {a : α} :
    Yields (.ok t) a rest ↔ t.value = a ∧ t.rest = rest := by
  obtain ⟨value, left, h⟩ := t
  constructor
  · rintro ⟨_, hok⟩
    cases hok
    exact ⟨rfl, rfl⟩
  · rintro ⟨rfl, rfl⟩
    exact ⟨h, rfl⟩

@[simp] theorem not_yields_error {e : GrammarError} {a : α} :
    ¬ Yields (.error e : Except GrammarError (Taken α n)) a rest := by
  rintro ⟨_, h⟩
  cases h

@[simp] theorem not_yields_blame {problem : TokenKind → GrammarProblem} {a : α} :
    ¬ Yields (blame stop ts problem : Except GrammarError (Taken α n)) a rest :=
  not_yields_error

/-- What a sequence yields, its second part yields after the first part has yielded. -/
theorem yields_bind_iff {x : Except GrammarError (Taken α m)}
    {f : Taken α m → Except GrammarError (Taken β n)} {b : β} :
    Yields (x >>= f) b rest ↔
      ∃ a left h, x = .ok ⟨a, left, h⟩ ∧ Yields (f ⟨a, left, h⟩) b rest := by
  constructor
  · rintro ⟨h, hok⟩
    obtain ⟨⟨a, left, h'⟩, hx, hf⟩ := bind_eq_ok.1 hok
    exact ⟨a, left, h', hx, h, hf⟩
  · rintro ⟨a, left, h', hx, h, hf⟩
    exact ⟨h, bind_eq_ok.2 ⟨⟨a, left, h'⟩, hx, hf⟩⟩

/-- What a last part yields that only changes the value. -/
theorem yields_map_iff {x : Except GrammarError (Taken α m)} {f : α → β}
    {h : ∀ t : Taken α m, t.rest.length < n} {b : β} :
    Yields (x >>= fun t => .ok (⟨f t.value, t.rest, h t⟩ : Taken β n)) b rest ↔
      ∃ a, Yields x a rest ∧ f a = b := by
  rw [yields_bind_iff]
  constructor
  · rintro ⟨a, left, hleft, hx, hok⟩
    simp only [yields_ok_iff] at hok
    obtain ⟨rfl, rfl⟩ := hok
    exact ⟨a, ⟨hleft, hx⟩, rfl⟩
  · rintro ⟨a, ⟨hleft, hx⟩, rfl⟩
    exact ⟨a, rest, hleft, hx, by simp⟩

end Yields

theorem yields_expect_iff {kind : TokenKind} {problem : TokenKind → GrammarProblem} {t : Token} :
    Yields (expect stop kind problem ts) t rest ↔ ts = t :: rest ∧ t.kind = kind := by
  cases ts with
  | nil => simp [expect]
  | cons u ts =>
      by_cases hkind : u.kind = kind
      · simp only [expect, hkind, if_true, yields_ok_iff, List.cons.injEq]
        constructor
        · rintro ⟨rfl, rfl⟩
          exact ⟨⟨rfl, rfl⟩, hkind⟩
        · rintro ⟨h, -⟩
          exact h
      · simp only [expect, hkind, if_false, not_yields_blame, List.cons.injEq, false_iff]
        rintro ⟨⟨rfl, -⟩, h⟩
        exact hkind h

/-! ## Soundness -/

theorem segments_sound : ∀ {ts rest : List Token} {more : List (Token × Token)},
    Yields (segments stop ts) more rest → ts = spread more ++ rest ∧ AreSegments more
  | [], _, more, h => by
      simp only [segments, yields_ok_iff] at h
      obtain ⟨rfl, rfl⟩ := h
      exact ⟨rfl, by simp [AreSegments]⟩
  | [separator], _, more, h => by
      by_cases hkind : separator.kind = .separator
      · simp [segments, hkind] at h
      · simp only [segments, hkind, if_false, yields_ok_iff] at h
        obtain ⟨rfl, rfl⟩ := h
        exact ⟨rfl, by simp [AreSegments]⟩
  | separator :: segment :: ts, _, more, h => by
      by_cases hkind : separator.kind = .separator
      · by_cases hword : segment.kind = .word
        · simp only [segments, hkind, hword, if_true, yields_bind_iff, yields_ok_iff] at h
          obtain ⟨more, left, hleft, hmore, rfl, rfl⟩ := h
          obtain ⟨hts, hsegments⟩ := segments_sound ⟨hleft, hmore⟩
          refine ⟨by rw [hts]; simp, ?_⟩
          intro s hs
          rcases List.mem_cons.1 hs with rfl | hs
          · exact ⟨hkind, hword⟩
          · exact hsegments s hs
        · simp [segments, hkind, hword] at h
      · simp only [segments, hkind, if_false, yields_ok_iff] at h
        obtain ⟨rfl, rfl⟩ := h
        exact ⟨rfl, by simp [AreSegments]⟩

theorem path_sound {p : Path} (h : Yields (path stop ts) p rest) :
    ∃ us, ts = us ++ rest ∧ IsPath us p := by
  obtain ⟨first, afterFirst, hafter, hfirst, h⟩ := yields_bind_iff.1 h
  obtain ⟨more, left, hleft, hmore, h⟩ := yields_bind_iff.1 h
  obtain ⟨rfl, hword⟩ := yields_expect_iff.1 ⟨hafter, hfirst⟩
  obtain ⟨rfl, hsegments⟩ := segments_sound ⟨hleft, hmore⟩
  obtain ⟨_, hok⟩ := h
  obtain ⟨p, hp, hok⟩ := bind_eq_ok.1 hok
  cases hok
  exact ⟨first :: spread more, rfl, (Path.ofSegments_eq_ok_iff hword hsegments).1 hp⟩

theorem params_sound {ts rest : List Token} {ns : List Node} (h : Yields (params stop ts) ns rest) :
    ∃ us, ts = us ++ rest ∧ Params us ns := by
  cases ts with
  | nil =>
      simp only [params, yields_ok_iff] at h
      obtain ⟨rfl, rfl⟩ := h
      exact ⟨[], rfl, .nil⟩
  | cons t ts =>
      rw [params] at h
      by_cases hliteral : t.kind = .literal
      · rw [if_pos hliteral] at h
        obtain ⟨more, left, hleft, hmore, h⟩ := yields_bind_iff.1 h
        simp only [yields_ok_iff] at h
        obtain ⟨rfl, rfl⟩ := h
        obtain ⟨us, rfl, hus⟩ := params_sound ⟨hleft, hmore⟩
        exact ⟨t :: us, rfl, .literal hliteral hus⟩
      · by_cases hword : t.kind = .word
        · rw [if_neg hliteral, if_pos hword] at h
          obtain ⟨p, left, hleft, hp, h⟩ := yields_bind_iff.1 h
          obtain ⟨more, left', hleft', hmore, h⟩ := yields_bind_iff.1 h
          simp only [yields_ok_iff] at h
          obtain ⟨rfl, rfl⟩ := h
          obtain ⟨us, hts, hus⟩ := path_sound ⟨hleft, hp⟩
          obtain ⟨vs, rfl, hvs⟩ := params_sound ⟨hleft', hmore⟩
          exact ⟨us ++ vs, by rw [hts, List.append_assoc], .path hus hvs⟩
        · rw [if_neg hliteral, if_neg hword] at h
          simp only [yields_ok_iff] at h
          obtain ⟨rfl, rfl⟩ := h
          exact ⟨[], rfl, .nil⟩
termination_by ts.length
decreasing_by all_goals simp_all

theorem head_sound {kind : TokenKind} {opener : Token} (hopener : opener.kind = kind)
    {v : Path × List Node} (h : Yields (head stop ts) v rest) :
    ∃ us, opener :: ts = us ++ rest ∧ Tag kind us v.1 v.2 := by
  obtain ⟨p, left, hleft, hp, h⟩ := yields_bind_iff.1 h
  obtain ⟨params, left', hleft', hparams, h⟩ := yields_bind_iff.1 h
  obtain ⟨finish, left'', hrest, hfinish, h⟩ := yields_bind_iff.1 h
  simp only [yields_ok_iff] at h
  obtain ⟨rfl, rfl⟩ := h
  obtain ⟨us, rfl, hus⟩ := path_sound ⟨hleft, hp⟩
  obtain ⟨vs, rfl, hvs⟩ := params_sound ⟨hleft', hparams⟩
  obtain ⟨rfl, hkind⟩ := yields_expect_iff.1 ⟨hrest, hfinish⟩
  exact ⟨opener :: (us ++ vs ++ [finish]), by simp, .intro hopener hus hvs hkind⟩

theorem inclusion_sound {opener : Token} (hopener : opener.kind = .openPartial) {n : Node}
    (h : Yields (inclusion stop ts) n rest) :
    ∃ us, opener :: ts = us ++ rest ∧ Inclusion us n := by
  obtain ⟨name, left, hleft, hname, h⟩ := yields_bind_iff.1 h
  obtain ⟨rfl, hword⟩ := yields_expect_iff.1 ⟨hleft, hname⟩
  by_cases hcontext : (left.headD stop).kind = .word
  · rw [if_pos hcontext] at h
    obtain ⟨context, left', hleft', hp, h⟩ := yields_bind_iff.1 h
    obtain ⟨finish, left'', hrest, hfinish, h⟩ := yields_bind_iff.1 h
    simp only [yields_ok_iff] at h
    obtain ⟨rfl, rfl⟩ := h
    obtain ⟨us, rfl, hus⟩ := path_sound ⟨hleft', hp⟩
    obtain ⟨rfl, hkind⟩ := yields_expect_iff.1 ⟨hrest, hfinish⟩
    exact ⟨opener :: name :: (us ++ [finish]), by simp, .within hopener hword hus hkind⟩
  · rw [if_neg hcontext] at h
    obtain ⟨finish, left', hrest, hfinish, h⟩ := yields_bind_iff.1 h
    simp only [yields_ok_iff] at h
    obtain ⟨rfl, rfl⟩ := h
    obtain ⟨rfl, hkind⟩ := yields_expect_iff.1 ⟨hrest, hfinish⟩
    exact ⟨[opener, name, finish], rfl, .plain hopener hword hkind⟩

theorem closing_sound {opener : Token} {opened closed : Path}
    (h : Yields (closing stop opener opened ts) closed rest) :
    ∃ us, ts = us ++ rest ∧ Closing us closed ∧ closed.written = opened.written := by
  cases ts with
  | nil => simp [closing] at h
  | cons t ts =>
      by_cases hopener : t.kind = .openEnd
      · rw [closing, if_pos hopener] at h
        obtain ⟨p, left, hleft, hp, h⟩ := yields_bind_iff.1 h
        by_cases hsame : p.written = opened.written
        · rw [if_pos hsame] at h
          obtain ⟨finish, left', hrest, hfinish, h⟩ := yields_bind_iff.1 h
          simp only [yields_ok_iff] at h
          obtain ⟨rfl, rfl⟩ := h
          obtain ⟨us, rfl, hus⟩ := path_sound ⟨hleft, hp⟩
          obtain ⟨rfl, hkind⟩ := yields_expect_iff.1 ⟨hrest, hfinish⟩
          exact ⟨t :: (us ++ [finish]), by simp, .intro hopener hus hkind, hsame⟩
        · rw [if_neg hsame] at h
          simp at h
      · rw [closing, if_neg hopener] at h
        simp at h

theorem afterInverse_sound : ∀ {ts : List Token}
    {r : { rest : List Token // rest.length < ts.length }}, afterInverse? ts = some r →
    ∃ opener finish, ts = opener :: finish :: r.1 ∧ BareInverse opener finish
  | [], r, h => by simp [afterInverse?] at h
  | [_], r, h => by simp [afterInverse?] at h
  | opener :: finish :: ts, r, h => by
      by_cases hbare : opener.kind = .openInverse ∧ finish.kind = .close
      · simp only [afterInverse?, hbare, and_self, if_true, Option.some.injEq] at h
        rw [← h]
        exact ⟨opener, finish, rfl, hbare⟩
      · simp [afterInverse?, hbare] at h

/-- What is parsed as statements from fewer than `n` tokens is written by the tokens taken. -/
def SoundBelow (stop : Token) (n : Nat) : Prop :=
  ∀ (inBody : Bool) (ts rest : List Token) (ns : List Node), ts.length < n →
    Yields (statements stop inBody ts) ns rest → ∃ us, ts = us ++ rest ∧ Statements us ns

theorem SoundBelow.mono {m n : Nat} (h : SoundBelow stop n) (hle : m ≤ n) : SoundBelow stop m :=
  fun _ _ _ _ hlt => h _ _ _ _ (Nat.lt_of_lt_of_le hlt hle)

section Blocks

variable {opener : Token} {opened : Path} {inBody : Bool} {n : Nat} {ns : List Node}
  (ih : SoundBelow stop ts.length)

include ih

/-- The last parts of a block: its closing tag, and the statements after the block. -/
theorem closing_statements_sound (mk : Path → Node) {bound : ∀ (closed : Taken Path ts.length)
      (more : Taken (List Node) (closed.rest.length + 1)), more.rest.length < n}
    (h : Yields (do
      let closed ← closing stop opener opened ts
      let more ← statements stop inBody closed.rest
      .ok (⟨mk closed.value :: more.value, more.rest, bound closed more⟩ : Taken (List Node) n))
      ns rest) :
    ∃ ws xs q ms, ts = ws ++ (xs ++ rest) ∧ Closing ws q ∧ q.written = opened.written ∧
      Statements xs ms ∧ ns = mk q :: ms := by
  obtain ⟨q, left, hleft, hclosed, h⟩ := yields_bind_iff.1 h
  obtain ⟨ms, hms, rfl⟩ := yields_map_iff.1 h
  obtain ⟨ws, hts, hclosing, hsame⟩ := closing_sound ⟨hleft, hclosed⟩
  obtain ⟨xs, hxs, hmore⟩ := ih _ _ _ _ hleft hms
  exact ⟨ws, xs, q, ms, by rw [hts, hxs], hclosing, hsame, hmore, rfl⟩

/-- What follows the body of a block without an inverse part. -/
theorem block_sound {us vs : List Token} {params body : List Node}
    (hus : Tag .openBlock us opened params) (hbody : Statements vs body)
    {bound : ∀ (closed : Taken Path ts.length)
      (more : Taken (List Node) (closed.rest.length + 1)), more.rest.length < n}
    (h : Yields (do
      let closed ← closing stop opener opened ts
      let more ← statements stop inBody closed.rest
      .ok (⟨.block opened params (.program body) none (some (.path closed.value)) false ::
        more.value, more.rest, bound closed more⟩ : Taken (List Node) n)) ns rest) :
    ∃ xs, ts = xs ++ rest ∧ Statements (us ++ (vs ++ xs)) ns := by
  obtain ⟨ws, xs, q, ms, hts, hclosing, hsame, hmore, rfl⟩ := closing_statements_sound ih
    (fun q => .block opened params (.program body) none (some (.path q)) false) h
  exact ⟨ws ++ xs, by rw [hts, List.append_assoc], .block hus hbody hclosing hsame hmore⟩

/-- What follows the body of an inverted section. -/
theorem inverted_sound {us vs : List Token} {params body : List Node}
    (hus : Tag .openInverse us opened params) (hbody : Statements vs body)
    {bound : ∀ (closed : Taken Path ts.length)
      (more : Taken (List Node) (closed.rest.length + 1)), more.rest.length < n}
    (h : Yields (do
      let closed ← closing stop opener opened ts
      let more ← statements stop inBody closed.rest
      .ok (⟨.block opened params (.program body) none (some (.path closed.value)) true ::
        more.value, more.rest, bound closed more⟩ : Taken (List Node) n)) ns rest) :
    ∃ xs, ts = xs ++ rest ∧ Statements (us ++ (vs ++ xs)) ns := by
  obtain ⟨ws, xs, q, ms, hts, hclosing, hsame, hmore, rfl⟩ := closing_statements_sound ih
    (fun q => .block opened params (.program body) none (some (.path q)) true) h
  exact ⟨ws ++ xs, by rw [hts, List.append_assoc], .inverted hus hbody hclosing hsame hmore⟩

/-- What follows the body of a block with an inverse part: the bare tag, the inverse part, and the
last parts of the block. -/
theorem blockInverse_sound {us vs : List Token} {params body : List Node}
    (hus : Tag .openBlock us opened params) (hbody : Statements vs body)
    {after : { left : List Token // left.length < ts.length }}
    (hafter : afterInverse? ts = some after)
    {bound : ∀ (inverse : Taken (List Node) (after.1.length + 1))
      (closed : Taken Path inverse.rest.length)
      (more : Taken (List Node) (closed.rest.length + 1)), more.rest.length < n}
    (h : Yields (do
      let inverse ← statements stop false after.1
      let closed ← closing stop opener opened inverse.rest
      let more ← statements stop inBody closed.rest
      .ok (⟨.block opened params (.program body) (some (.program inverse.value))
        (some (.path closed.value)) false :: more.value, more.rest,
        bound inverse closed more⟩ : Taken (List Node) n)) ns rest) :
    ∃ xs, ts = xs ++ rest ∧ Statements (us ++ (vs ++ xs)) ns := by
  obtain ⟨bare, finish, hts, hbare⟩ := afterInverse_sound hafter
  obtain ⟨other, left, hleft, hother, h⟩ := yields_bind_iff.1 h
  obtain ⟨is, his, hinverse⟩ := ih _ _ _ _ after.2 ⟨hleft, hother⟩
  have hle : left.length ≤ ts.length :=
    Nat.le_trans (Nat.le_of_lt_succ hleft) (Nat.le_of_lt after.2)
  obtain ⟨ws, xs, q, ms, rfl, hclosing, hsame, hmore, rfl⟩ := closing_statements_sound
    (ih.mono hle) (fun q => .block opened params (.program body) (some (.program other))
      (some (.path q)) false) h
  exact ⟨bare :: finish :: (is ++ (ws ++ xs)), by rw [hts, his]; simp,
    .blockInverse hus hbody hbare hinverse hclosing hsame hmore⟩

end Blocks

/-- A block: its head, its body, and what follows the body. -/
theorem openBlock_sound {inBody : Bool} {t : Token} {ns : List Node} (hkind : t.kind = .openBlock)
    (ih : SoundBelow stop (ts.length + 1)) (h : Yields (statements stop inBody (t :: ts)) ns rest) :
    ∃ us, t :: ts = us ++ rest ∧ Statements us ns := by
  rw [statements] at h
  simp only [hkind] at h
  obtain ⟨first, left, hleft, hfirst, h⟩ := yields_bind_iff.1 h
  obtain ⟨body, left', hleft', hbody, h⟩ := yields_bind_iff.1 h
  obtain ⟨us, hts, hus⟩ := head_sound hkind ⟨hleft, hfirst⟩
  obtain ⟨vs, hvs, hbody⟩ := ih _ left _ _ (by omega) ⟨hleft', hbody⟩
  simp only at h hvs hleft'
  have hrest : ∃ xs, left' = xs ++ rest ∧ Statements (us ++ (vs ++ xs)) ns := by
    split at h
    · exact block_sound (ih.mono (by omega)) hus hbody h
    · rename_i hafter
      exact blockInverse_sound (ih.mono (by omega)) hus hbody hafter h
  obtain ⟨xs, hxs, hall⟩ := hrest
  exact ⟨us ++ (vs ++ xs), by rw [hts, hvs, hxs]; simp, hall⟩

/-- An inverted section, or the tag before an inverse part, where statements end. -/
theorem openInverse_sound {inBody : Bool} {t : Token} {ns : List Node}
    (hkind : t.kind = .openInverse) (ih : SoundBelow stop (ts.length + 1))
    (h : Yields (statements stop inBody (t :: ts)) ns rest) :
    ∃ us, t :: ts = us ++ rest ∧ Statements us ns := by
  rw [statements] at h
  simp only [hkind] at h
  by_cases hclose : (ts.headD stop).kind = .close
  · simp only [hclose, if_true] at h
    cases inBody with
    | true =>
        simp only [if_true, yields_ok_iff] at h
        obtain ⟨rfl, rfl⟩ := h
        exact ⟨[], rfl, .nil⟩
    | false => simp at h
  · simp only [hclose, if_false] at h
    obtain ⟨first, left, hleft, hfirst, h⟩ := yields_bind_iff.1 h
    obtain ⟨body, left', hleft', hbody, h⟩ := yields_bind_iff.1 h
    obtain ⟨us, hts, hus⟩ := head_sound hkind ⟨hleft, hfirst⟩
    obtain ⟨vs, hvs, hbody⟩ := ih _ left _ _ (by omega) ⟨hleft', hbody⟩
    simp only at h hvs hleft'
    obtain ⟨xs, hxs, hall⟩ := inverted_sound (ih.mono (by omega)) hus hbody h
    exact ⟨us ++ (vs ++ xs), by rw [hts, hvs, hxs]; simp, hall⟩

/-- What is parsed as statements is written by the tokens taken. -/
theorem statements_sound {inBody : Bool} {ts rest : List Token} {ns : List Node}
    (h : Yields (statements stop inBody ts) ns rest) :
    ∃ us, ts = us ++ rest ∧ Statements us ns := by
  -- The calls for bodies and for what follows a statement are all on fewer tokens.
  suffices hall : ∀ n, SoundBelow stop n from hall _ _ _ _ _ (Nat.lt_succ_self _) h
  intro n
  induction n with
  | zero => exact fun _ _ _ _ hlt => absurd hlt (Nat.not_lt_zero _)
  | succ n ih =>
      intro inBody ts rest ns hlt h
      cases ts with
      | nil =>
          simp only [statements, yields_ok_iff] at h
          obtain ⟨rfl, rfl⟩ := h
          exact ⟨[], rfl, .nil⟩
      | cons t ts =>
          rw [List.length_cons] at hlt
          cases hkind : t.kind with
          | openEnd | eof =>
              simp only [statements, hkind, yields_ok_iff] at h
              obtain ⟨rfl, rfl⟩ := h
              exact ⟨[], rfl, .nil⟩
          | close | word | separator | literal => simp [statements, hkind] at h
          | content =>
              simp only [statements, hkind, yields_map_iff] at h
              obtain ⟨ms, hms, rfl⟩ := h
              obtain ⟨us, rfl, hus⟩ := ih _ _ _ _ (by omega) hms
              exact ⟨t :: us, rfl, .content hkind hus⟩
          | comment =>
              simp only [statements, hkind, yields_map_iff] at h
              obtain ⟨ms, hms, rfl⟩ := h
              obtain ⟨us, rfl, hus⟩ := ih _ _ _ _ (by omega) hms
              exact ⟨t :: us, rfl, .comment hkind hus⟩
          | openValue =>
              simp only [statements, hkind] at h
              obtain ⟨first, left, hleft, hfirst, h⟩ := yields_bind_iff.1 h
              obtain ⟨ms, hms, rfl⟩ := yields_map_iff.1 h
              obtain ⟨us, hts, hus⟩ := head_sound hkind ⟨hleft, hfirst⟩
              obtain ⟨vs, rfl, hvs⟩ := ih _ left _ _ (by omega) hms
              exact ⟨us ++ vs, by rw [hts, List.append_assoc], .insertion hus hvs⟩
          | openPartial =>
              simp only [statements, hkind] at h
              obtain ⟨first, left, hleft, hfirst, h⟩ := yields_bind_iff.1 h
              obtain ⟨ms, hms, rfl⟩ := yields_map_iff.1 h
              obtain ⟨us, hts, hus⟩ := inclusion_sound hkind ⟨hleft, hfirst⟩
              obtain ⟨vs, rfl, hvs⟩ := ih _ left _ _ (by omega) hms
              exact ⟨us ++ vs, by rw [hts, List.append_assoc], .inclusion hus hvs⟩
          | openBlock => exact openBlock_sound hkind (ih.mono (by omega)) h
          | openInverse => exact openInverse_sound hkind (ih.mono (by omega)) h

/-! ## Completeness -/

theorem yields_bind {α β : Type} {m n : Nat} {x : Except GrammarError (Taken α m)}
    {f : Taken α m → Except GrammarError (Taken β n)} {a : α} {b : β} {left : List Token}
    (hx : Yields x a left) (hf : ∀ h, Yields (f ⟨a, left, h⟩) b rest) : Yields (x >>= f) b rest :=
  yields_bind_iff.2 ⟨a, left, hx.1, hx.2, hf hx.1⟩

/-- The tokens that can follow a path: they do not go on with a separator. -/
def EndsPath (ts : List Token) : Prop :=
  ∀ t ∈ ts.head?, t.kind ≠ .separator

theorem endsPath_cons {t : Token} (ht : t.kind ≠ .separator) : EndsPath (t :: ts) := by
  simpa [EndsPath] using ht

theorem yields_segments {more : List (Token × Token)} (hmore : AreSegments more)
    (hrest : EndsPath rest) : Yields (segments stop (spread more ++ rest)) more rest := by
  induction more with
  | nil =>
      cases rest with
      | nil => simp [segments]
      | cons t rest =>
          have ht : t.kind ≠ .separator := hrest t rfl
          unfold segments
          simp [ht]
  | cons s more ih =>
      obtain ⟨hseparator, hword⟩ := hmore s (by simp)
      have ih := ih fun s' hs' => hmore s' (by simp [hs'])
      simp only [spread_cons, List.cons_append, segments, hseparator, hword, if_true]
      exact yields_map_iff.2 ⟨more, ih, rfl⟩

theorem yields_path {us : List Token} {p : Path} (hp : IsPath us p) (hrest : EndsPath rest) :
    Yields (path stop (us ++ rest)) p rest := by
  have h := hp
  obtain ⟨segments, -, -⟩ := h
  obtain ⟨first, more, rfl, -, hfirst, hmore⟩ := exists_spread segments
  refine yields_bind (yields_expect_iff.2 ⟨rfl, hfirst⟩) fun _ => ?_
  refine yields_bind (yields_segments hmore hrest) fun _ => ?_
  rw [(Path.ofSegments_eq_ok_iff hfirst hmore).2 hp]
  exact yields_ok_iff.2 ⟨rfl, rfl⟩

theorem endsPath_params {us : List Token} {ns : List Node} (h : Params us ns)
    (hrest : EndsPath rest) : EndsPath (us ++ rest) := by
  cases h with
  | nil => exact hrest
  | literal ht _ => exact endsPath_cons (by simp [ht])
  | path first _ =>
      obtain ⟨word, vs, rfl, hword⟩ := first.exists_word
      exact endsPath_cons (by simp [hword])

theorem yields_params {finish : Token} (hfinish : finish.kind = .close) {us : List Token}
    {ns : List Node} (h : Params us ns) :
    Yields (params stop (us ++ finish :: rest)) ns (finish :: rest) := by
  have hends : EndsPath (finish :: rest) := endsPath_cons (by simp [hfinish])
  induction h with
  | nil =>
      rw [List.nil_append, params]
      simp [hfinish]
  | literal ht _ ih =>
      rw [List.cons_append, params, if_pos ht]
      exact yields_map_iff.2 ⟨_, ih, rfl⟩
  | path first more ih =>
      obtain ⟨word, vs, rfl, hword⟩ := first.exists_word
      rw [List.append_assoc, List.cons_append, params, if_neg (by simp [hword]), if_pos hword]
      refine yields_bind (yields_path first (endsPath_params more hends)) fun _ => ?_
      exact yields_map_iff.2 ⟨_, ih, rfl⟩

theorem yields_close {finish : Token} (hfinish : finish.kind = .close) :
    Yields (close stop (finish :: rest)) finish rest :=
  yields_expect_iff.2 ⟨rfl, hfinish⟩

/-- A tag is its opening delimiter and a head. The head begins with a word. -/
theorem yields_head {kind : TokenKind} {us : List Token} {p : Path} {ps : List Node}
    (h : Tag kind us p ps) :
    ∃ opener vs, us = opener :: vs ∧ opener.kind = kind ∧
      (∀ left, ((vs ++ left).headD stop).kind = .word) ∧
      ∀ rest, Yields (head stop (vs ++ rest)) (p, ps) rest := by
  obtain @⟨opener, finish, us, vs, _, _, hopener, path, more, hfinish⟩ := h
  refine ⟨opener, us ++ vs ++ [finish], rfl, hopener, fun left => ?_, fun rest => ?_⟩
  · obtain ⟨word, ws, rfl, hword⟩ := path.exists_word
    exact hword
  · have hends : EndsPath (finish :: rest) := endsPath_cons (by simp [hfinish])
    rw [List.append_assoc, List.append_assoc, List.singleton_append]
    refine yields_bind (yields_path path (endsPath_params more hends)) fun _ => ?_
    refine yields_bind (yields_params hfinish more) fun _ => ?_
    refine yields_bind (yields_close hfinish) fun _ => ?_
    exact yields_ok_iff.2 ⟨rfl, rfl⟩

theorem yields_inclusion {us : List Token} {n : Node} (h : Inclusion us n) :
    ∃ opener vs, us = opener :: vs ∧ opener.kind = .openPartial ∧
      ∀ rest, Yields (inclusion stop (vs ++ rest)) n rest := by
  cases h with
  | plain hopener hname hfinish =>
      refine ⟨_, _, rfl, hopener, fun rest => ?_⟩
      refine yields_bind (yields_expect_iff.2 ⟨rfl, hname⟩) fun _ => ?_
      rw [if_neg (by simp [hfinish])]
      refine yields_bind (yields_close hfinish) fun _ => ?_
      exact yields_ok_iff.2 ⟨rfl, rfl⟩
  | @within _ name finish us p hopener hname context hfinish =>
      refine ⟨_, _, rfl, hopener, fun rest => ?_⟩
      have hfirst : Yields (expect stop .word (fun _ => .expectedPartialName)
          (name :: (us ++ [finish]) ++ rest)) name (us ++ finish :: rest) :=
        yields_expect_iff.2 ⟨by simp, hname⟩
      have hcontext : ((us ++ finish :: rest).headD stop).kind = .word := by
        obtain ⟨word, vs, rfl, hword⟩ := context.exists_word
        exact hword
      have hends : EndsPath (finish :: rest) := endsPath_cons (by simp [hfinish])
      refine yields_bind hfirst fun _ => ?_
      rw [if_pos hcontext]
      refine yields_bind (yields_path context hends) fun _ => ?_
      refine yields_bind (yields_close hfinish) fun _ => ?_
      exact yields_ok_iff.2 ⟨rfl, rfl⟩

theorem yields_closing {opener : Token} {opened q : Path} {us : List Token} (h : Closing us q)
    (hsame : q.written = opened.written) :
    Yields (closing stop opener opened (us ++ rest)) q rest := by
  obtain @⟨_, finish, us, _, hopener, path, hfinish⟩ := h
  have hends : EndsPath (finish :: rest) := endsPath_cons (by simp [hfinish])
  rw [List.cons_append, List.append_assoc, List.singleton_append, closing, if_pos hopener]
  refine yields_bind (yields_path path hends) fun _ => ?_
  rw [if_pos hsame]
  refine yields_bind (yields_close hfinish) fun _ => ?_
  exact yields_ok_iff.2 ⟨rfl, rfl⟩

/-- The tokens at which statements stop: the end of the template or a closing tag, and in the
primary body of a block also the tag before its inverse part. -/
inductive Stops (inBody : Bool) : List Token → Prop where
  | atEnd : Stops inBody []
  | atClosing {t : Token} {ts : List Token} (ht : t.kind = .openEnd) : Stops inBody (t :: ts)
  | atInverse {opener finish : Token} {ts : List Token} (bare : BareInverse opener finish)
      (hbody : inBody = true) : Stops inBody (opener :: finish :: ts)

theorem stops_closing {inBody : Bool} {us : List Token} {q : Path} (h : Closing us q) :
    Stops inBody (us ++ rest) := by
  obtain ⟨hopener, -, -⟩ := h
  exact .atClosing hopener

theorem yields_statements_nil {inBody : Bool} (h : Stops inBody rest) :
    Yields (statements stop inBody rest) [] rest := by
  cases h with
  | atEnd => simp [statements]
  | atClosing ht =>
      rw [statements]
      simp [ht]
  | atInverse bare hbody =>
      rw [statements]
      simp [bare.1, bare.2, hbody]

theorem afterInverse_closing {us : List Token} {q : Path} (h : Closing us q) :
    afterInverse? (us ++ rest) = none := by
  obtain @⟨opener, finish, us, _, hopener, path, _⟩ := h
  obtain ⟨word, vs, rfl, -⟩ := path.exists_word
  simp [afterInverse?, hopener]

/-- What the grammar derives is parsed, up to tokens at which statements stop. -/
theorem yields_statements {us : List Token} {ns : List Node} (h : Statements us ns)
    {inBody : Bool} {rest : List Token} (hrest : Stops inBody rest) :
    Yields (statements stop inBody (us ++ rest)) ns rest := by
  induction h generalizing inBody rest with
  | nil => exact yields_statements_nil hrest
  | content ht _ ih =>
      rw [List.cons_append, statements]
      simp only [ht]
      exact yields_map_iff.2 ⟨_, ih hrest, rfl⟩
  | comment ht _ ih =>
      rw [List.cons_append, statements]
      simp only [ht]
      exact yields_map_iff.2 ⟨_, ih hrest, rfl⟩
  | insertion tag _ ih =>
      obtain ⟨opener, vs, rfl, hopener, -, hhead⟩ := yields_head tag
      rw [List.append_assoc, List.cons_append, statements]
      simp only [hopener]
      refine yields_bind (hhead _) fun _ => ?_
      exact yields_map_iff.2 ⟨_, ih hrest, rfl⟩
  | inclusion tag _ ih =>
      obtain ⟨opener, vs, rfl, hopener, hinclusion⟩ := yields_inclusion tag
      rw [List.append_assoc, List.cons_append, statements]
      simp only [hopener]
      refine yields_bind (hinclusion _) fun _ => ?_
      exact yields_map_iff.2 ⟨_, ih hrest, rfl⟩
  | @block us vs ws ts _ _ _ _ _ tag _ closing same _ ihBody ih =>
      obtain ⟨opener, us, rfl, hopener, -, hhead⟩ := yields_head tag
      have happend : opener :: us ++ (vs ++ (ws ++ ts)) ++ rest =
          opener :: (us ++ (vs ++ (ws ++ (ts ++ rest)))) := by simp
      rw [happend, statements]
      simp only [hopener]
      refine yields_bind (hhead _) fun _ => ?_
      refine yields_bind (ihBody (stops_closing closing)) fun _ => ?_
      rw [afterInverse_closing closing]
      refine yields_bind (yields_closing closing same) fun _ => ?_
      exact yields_map_iff.2 ⟨_, ih hrest, rfl⟩
  | @blockInverse us vs is ws ts o c _ _ _ _ _ _ tag _ bare _ closing same _ ihBody ihOther ih =>
      obtain ⟨opener, us, rfl, hopener, -, hhead⟩ := yields_head tag
      have happend : opener :: us ++ (vs ++ (o :: c :: (is ++ (ws ++ ts)))) ++ rest =
          opener :: (us ++ (vs ++ (o :: c :: (is ++ (ws ++ (ts ++ rest)))))) := by simp
      rw [happend, statements]
      simp only [hopener]
      refine yields_bind (hhead _) fun _ => ?_
      refine yields_bind (ihBody (.atInverse bare rfl)) fun _ => ?_
      simp only [afterInverse?, bare.1, bare.2, and_self, if_true]
      refine yields_bind (ihOther (stops_closing closing)) fun _ => ?_
      refine yields_bind (yields_closing closing same) fun _ => ?_
      exact yields_map_iff.2 ⟨_, ih hrest, rfl⟩
  | @inverted us vs ws ts _ _ _ _ _ tag _ closing same _ ihBody ih =>
      obtain ⟨opener, us, rfl, hopener, hword, hhead⟩ := yields_head tag
      have happend : opener :: us ++ (vs ++ (ws ++ ts)) ++ rest =
          opener :: (us ++ (vs ++ (ws ++ (ts ++ rest)))) := by simp
      rw [happend, statements]
      simp only [hopener]
      rw [if_neg (by rw [hword]; decide)]
      refine yields_bind (hhead _) fun _ => ?_
      refine yields_bind (ihBody (stops_closing closing)) fun _ => ?_
      refine yields_bind (yields_closing closing same) fun _ => ?_
      exact yields_map_iff.2 ⟨_, ih hrest, rfl⟩

/-- A program before the end of a template is what the grammar derives. -/
theorem template_eq_ok_iff {n : Node} :
    template stop ts = .ok n ↔ ∃ ns, n = .program ns ∧ Statements ts ns := by
  constructor
  · intro h
    obtain ⟨⟨ns, rest, hshorter⟩, hok, h⟩ := bind_eq_ok.1 h
    obtain ⟨us, rfl, hus⟩ := statements_sound ⟨hshorter, hok⟩
    cases rest with
    | nil =>
        rw [List.append_nil]
        cases h
        exact ⟨ns, rfl, hus⟩
    | cons t rest =>
        by_cases ht : t.kind = .openEnd <;> simp [ht] at h
  · rintro ⟨ns, rfl, hns⟩
    have h : Yields (statements stop false (ts ++ [])) ns [] := yields_statements hns .atEnd
    rw [List.append_nil] at h
    obtain ⟨_, hok⟩ := h
    exact bind_eq_ok.2 ⟨_, hok, rfl⟩

end Node.Parser

/-- A tree that the grammar derives is the only one. -/
theorem Grammar.Statements.unique {ts : List Token} {ms ns : List Node} (h : Statements ts ms)
    (h' : Statements ts ns) : ms = ns := by
  let stop : Token := ⟨.eof, "", {}⟩
  have hm : Node.Parser.template stop ts = .ok (.program ms) :=
    Node.Parser.template_eq_ok_iff.2 ⟨ms, rfl, h⟩
  have hn : Node.Parser.template stop ts = .ok (.program ns) :=
    Node.Parser.template_eq_ok_iff.2 ⟨ns, rfl, h'⟩
  rw [hm] at hn
  simpa using hn

namespace Node

/-- Parsing gives a tree just when the tokens write it as a template. -/
theorem ofTokens_eq_ok_iff {tokens : List Token} {n : Node} :
    ofTokens tokens = .ok n ↔ Grammar.Template tokens n := by
  unfold ofTokens Grammar.Template
  cases hlast : tokens.getLast? with
  | none => simp
  | some last =>
      by_cases heof : last.kind = .eof
      · simp [heof, Parser.template_eq_ok_iff]
      · simp [heof]

/-- **The parser decides the grammar.** It gives a tree just for the sequences of tokens that write
a template, and then the only tree they write; every other sequence is a grammar error. -/
theorem ofTokens_decides_grammar (tokens : List Token) :
    (∀ n, ofTokens tokens = .ok n ↔ Grammar.Template tokens n) ∧
      (∀ m n, Grammar.Template tokens m → Grammar.Template tokens n → m = n) ∧
      ((∃ e, ofTokens tokens = .error e) ↔ ¬ ∃ n, Grammar.Template tokens n) := by
  refine ⟨fun n => ofTokens_eq_ok_iff, ?_, ?_⟩
  · intro m n hm hn
    have h := ofTokens_eq_ok_iff.2 hm
    rw [ofTokens_eq_ok_iff.2 hn] at h
    cases h
    rfl
  · simp only [← ofTokens_eq_ok_iff]
    cases ofTokens tokens <;> simp

end Node

end Templating
