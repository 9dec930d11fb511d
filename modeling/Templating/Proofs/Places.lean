import Templating.Proofs.Parsing

/-!
# Parsing and the places of tokens

A parser looks at the kinds and the texts of tokens. The places of tokens go into no tree, and into
an error only by the token that it blames: tokens that say the same give the same tree, or the same
problem at tokens that say the same (`Node.parallel_ofTokens`). For each parsing function the two
results are compared by one relation (`Parallel`), which sequencing keeps.
-/

namespace Templating

open Token

/-- What is found first says the same. -/
theorem Token.Alike.find? {us ts : List Token} (h : Alike us ts)
    (wanted : TokenKind × String → Bool) :
    (us.find? fun u => wanted u.symbol).map symbol =
      (ts.find? fun t => wanted t.symbol).map symbol := by
  have hmap := congrArg (List.find? wanted) h
  rwa [List.find?_map, List.find?_map] at hmap

/-! ## Errors and results -/

/-- Errors with the same problem at tokens that say the same. -/
def GrammarError.Alike (e e' : GrammarError) : Prop :=
  e.problem = e'.problem ∧ e.token.map Token.symbol = e'.token.map Token.symbol

/-- An error with its token at a given place. -/
def GrammarError.placed (p : Position) (e : GrammarError) : GrammarError :=
  { e with token := e.token.map fun t => { t with start := p } }

theorem GrammarError.Alike.placed_eq {e e' : GrammarError} (h : Alike e e') (p : Position) :
    e.placed p = e'.placed p := by
  obtain ⟨problem, token⟩ := e
  obtain ⟨problem', token'⟩ := e'
  obtain ⟨rfl, htoken⟩ : problem = problem' ∧ token.map symbol = token'.map symbol := h
  refine congrArg (GrammarError.mk problem) ?_
  cases token with
  | none =>
      obtain rfl := Option.map_eq_none_iff.1 htoken.symm
      rfl
  | some t =>
      obtain ⟨t', rfl, ht⟩ := Option.map_eq_some_iff.1 htoken.symm
      have hkind : t'.kind = t.kind := kind_eq_of_symbol ht
      have htext : t'.text = t.text := text_eq_of_symbol ht
      show some (Token.mk t.kind t.text p) = some ⟨t'.kind, t'.text, p⟩
      rw [hkind, htext]

/-- Two results, of the same problem at tokens that say the same or with values that are related. -/
inductive Parallel {α β : Type} (V : α → β → Prop) :
    Except GrammarError α → Except GrammarError β → Prop where
  | ok {a : α} {b : β} (hvalue : V a b) : Parallel V (.ok a) (.ok b)
  | error {e e' : GrammarError} (halike : e.Alike e') : Parallel V (.error e) (.error e')

namespace Parallel

variable {α β γ δ : Type} {V : α → β → Prop} {W : γ → δ → Prop}

theorem bind {x : Except GrammarError α} {y : Except GrammarError β} {f : α → Except GrammarError γ}
    {g : β → Except GrammarError δ} (h : Parallel V x y)
    (hfg : ∀ a b, V a b → Parallel W (f a) (g b)) : Parallel W (x >>= f) (y >>= g) := by
  cases h with
  | ok hvalue => exact hfg _ _ hvalue
  | error halike => exact .error halike

theorem map {x : Except GrammarError α} {y : Except GrammarError β} {f : α → γ} {g : β → δ}
    (h : Parallel V x y) (hfg : ∀ a b, V a b → W (f a) (g b)) : Parallel W (x.map f) (y.map g) := by
  cases h with
  | ok hvalue => exact .ok (hfg _ _ hvalue)
  | error halike => exact .error halike

/-- An error at two tokens that say the same. -/
theorem blamed {t u : Token} (problem : GrammarProblem) (h : t.symbol = u.symbol) :
    Parallel V (.error ⟨problem, some t⟩) (.error ⟨problem, some u⟩) :=
  .error ⟨rfl, congrArg some h⟩

/-- The same value, or the same error but for the place of its token. -/
theorem mapError_placed {x y : Except GrammarError α} (h : Parallel Eq x y) (p : Position) :
    x.mapError (·.placed p) = y.mapError (·.placed p) := by
  cases h with
  | ok hvalue => rw [hvalue]
  | error halike => exact congrArg Except.error (halike.placed_eq p)

end Parallel

/-! ## Paths -/

namespace Path

variable {us ts : List Token}

theorem parallel_names (h : Alike us ts) : Parallel Eq (names us) (names ts) := by
  have hfind : (us.find? (·.text = parentSegment)).map symbol =
      (ts.find? (·.text = parentSegment)).map symbol :=
    h.find? fun s => s.2 = parentSegment
  unfold names
  cases hus : us.find? (·.text = parentSegment) with
  | none =>
      cases hts : ts.find? (·.text = parentSegment) with
      | none => exact .ok h.map_text
      | some t =>
          rw [hus, hts] at hfind
          cases hfind
  | some u =>
      cases hts : ts.find? (·.text = parentSegment) with
      | none =>
          rw [hus, hts] at hfind
          cases hfind
      | some t =>
          rw [hus, hts] at hfind
          exact .blamed _ (Option.some.inj hfind)

theorem parallel_steps (h : Alike us ts) (first : Bool) (depth : Nat) :
    Parallel Eq (steps first depth us) (steps first depth ts) := by
  induction ts generalizing us first depth with
  | nil =>
      obtain rfl := h.eq_nil
      exact .ok rfl
  | cons t ts ih =>
      obtain ⟨u, us, rfl, -, htext, hus⟩ := h.exists_cons
      rw [steps, steps, htext]
      split
      · exact ih hus first _
      · split
        · exact ih hus false depth
        · exact (parallel_names h).map fun _ _ hparts => by rw [hparts]

/-- What further segments and the separators before them say. -/
def symbols (more : List (Token × Token)) : List ((TokenKind × String) × (TokenKind × String)) :=
  more.map fun s => (s.1.symbol, s.2.symbol)

theorem writtenOf_eq_of_symbols {first first' : Token} {more more' : List (Token × Token)}
    (hfirst : first.symbol = first'.symbol) (hmore : symbols more = symbols more') :
    writtenOf first more = writtenOf first' more' := by
  have hfold (first : Token) (more : List (Token × Token)) : writtenOf first more =
      (symbols more).foldl (fun text s => text ++ s.1.2 ++ s.2.2) first.text := by
    rw [symbols, List.foldl_map]
    rfl
  rw [hfold, hfold, hmore, text_eq_of_symbol hfirst]

theorem parallel_ofSegments {first first' : Token} {more more' : List (Token × Token)}
    (hfirst : first.symbol = first'.symbol) (hmore : symbols more = symbols more') :
    Parallel Eq (ofSegments first more) (ofSegments first' more') := by
  have hsegments : Alike (first :: more.map (·.2)) (first' :: more'.map (·.2)) := by
    refine .cons hfirst ?_
    have := congrArg (List.map Prod.snd) hmore
    simpa [symbols, Alike, List.map_map, Function.comp_def] using this
  refine (parallel_steps hsegments true 0).map ?_
  rintro ⟨depth, parts⟩ _ rfl
  rw [writtenOf_eq_of_symbols hfirst hmore]

end Path

/-! ## Parsing functions -/

namespace Node

/-- Values that are related, with tokens left that say the same. -/
def Taken.Alike {α β : Type} {m n : Nat} (V : α → β → Prop) (x : Taken α m)
    (y : Taken β n) : Prop :=
  V x.value y.value ∧ Token.Alike x.rest y.rest

namespace Parser

variable {stop stop' : Token} (hstop : stop.symbol = stop'.symbol) {us ts : List Token}

/-- A bare inverse tag stands in both or in neither. -/
theorem afterInverse_alike (h : Alike us ts) :
    (afterInverse? us = none ∧ afterInverse? ts = none) ∨
      ∃ left left', afterInverse? us = some left ∧ afterInverse? ts = some left' ∧
        Alike left.1 left'.1 := by
  match ts, h with
  | [], h =>
      obtain rfl := h.eq_nil
      exact .inl ⟨rfl, rfl⟩
  | [t], h =>
      obtain ⟨u, us, rfl, -, -, hus⟩ := h.exists_cons
      obtain rfl := hus.eq_nil
      exact .inl ⟨rfl, rfl⟩
  | t :: finish :: ts, h =>
      obtain ⟨u, us, rfl, hkind, -, hus⟩ := h.exists_cons
      obtain ⟨v, us, rfl, hkind', -, hrest⟩ := hus.exists_cons
      simp only [afterInverse?, hkind, hkind']
      split
      · exact .inr ⟨_, _, rfl, rfl, hrest⟩
      · exact .inl ⟨rfl, rfl⟩

include hstop

theorem symbol_headD (h : Alike us ts) :
    (us.headD stop).symbol = (ts.headD stop').symbol := by
  cases ts with
  | nil =>
      obtain rfl := h.eq_nil
      exact hstop
  | cons t ts =>
      obtain ⟨u, us, rfl, hkind, htext, -⟩ := h.exists_cons
      exact Prod.ext hkind htext

theorem parallel_blame {α β : Type} {V : α → β → Prop} (h : Alike us ts)
    (problem : TokenKind → GrammarProblem) :
    Parallel V (blame stop us problem) (blame stop' ts problem) := by
  have hhead := symbol_headD hstop h
  unfold blame
  dsimp only
  rw [kind_eq_of_symbol hhead]
  exact .blamed _ hhead

theorem parallel_expect (h : Alike us ts) (kind : TokenKind)
    (problem : TokenKind → GrammarProblem) :
    Parallel (Taken.Alike fun t u => t.symbol = u.symbol) (expect stop kind problem us)
      (expect stop' kind problem ts) := by
  cases ts with
  | nil =>
      obtain rfl := h.eq_nil
      exact parallel_blame hstop h problem
  | cons t ts =>
      obtain ⟨u, us, rfl, hkind, htext, hus⟩ := h.exists_cons
      rw [expect, expect, hkind]
      split
      · exact .ok ⟨Prod.ext hkind htext, hus⟩
      · exact parallel_blame hstop h problem

theorem parallel_close (h : Alike us ts) :
    Parallel (Taken.Alike fun t u => t.symbol = u.symbol) (close stop us) (close stop' ts) :=
  parallel_expect hstop h _ _

theorem parallel_segments : ∀ {us ts : List Token}, Alike us ts →
    Parallel (Taken.Alike fun more more' => Path.symbols more = Path.symbols more')
      (segments stop us) (segments stop' ts)
  | us, [], h => by
      obtain rfl := h.eq_nil
      rw [segments, segments]
      exact .ok ⟨rfl, h⟩
  | us, [separator], h => by
      obtain ⟨u, us, rfl, hkind, htext, hus⟩ := h.exists_cons
      obtain rfl := hus.eq_nil
      rw [segments, segments, hkind]
      split
      · exact parallel_blame hstop hus _
      · exact .ok ⟨rfl, h⟩
  | us, separator :: segment :: ts, h => by
      obtain ⟨u, us, rfl, hkind, htext, hus⟩ := h.exists_cons
      obtain ⟨v, us, rfl, hkind', htext', hrest⟩ := hus.exists_cons
      rw [segments, segments, hkind]
      split
      · rw [hkind']
        split
        · refine (parallel_segments hrest).bind fun more more' hmore => .ok ⟨?_, hmore.2⟩
          have hfirst : (u.symbol, v.symbol) = (separator.symbol, segment.symbol) :=
            Prod.ext (Prod.ext hkind htext) (Prod.ext hkind' htext')
          exact congrArg₂ List.cons hfirst hmore.1
        · exact parallel_blame hstop hus _
      · exact .ok ⟨rfl, h⟩

theorem parallel_path (h : Alike us ts) :
    Parallel (Taken.Alike Eq) (path stop us) (path stop' ts) := by
  refine (parallel_expect hstop h _ _).bind fun first first' hfirst => ?_
  refine (parallel_segments hstop hfirst.2).bind fun more more' hmore => ?_
  refine (Path.parallel_ofSegments hfirst.1 hmore.1).bind fun p p' hp => ?_
  exact .ok ⟨hp, hmore.2⟩

theorem parallel_params (bound : Nat) (hbound : ts.length < bound) (h : Alike us ts) :
    Parallel (Taken.Alike Eq) (params stop us) (params stop' ts) := by
  -- After a path the parameters go on with fewer tokens.
  induction bound generalizing us ts with
  | zero => omega
  | succ bound ih =>
      cases ts with
      | nil =>
          obtain rfl := h.eq_nil
          rw [params, params]
          exact .ok ⟨rfl, h⟩
      | cons t ts =>
          obtain ⟨u, us, rfl, hkind, htext, hus⟩ := h.exists_cons
          rw [List.length_cons] at hbound
          rw [params, params, hkind]
          split
          · refine (ih (by omega) hus).bind fun more more' hmore => ?_
            exact .ok ⟨by rw [htext, hmore.1], hmore.2⟩
          · split
            · refine (parallel_path hstop h).bind fun first first' hfirst => ?_
              have hshorter : first'.rest.length < ts.length + 1 := first'.shorter
              refine (ih (by omega) hfirst.2).bind fun more more' hmore => ?_
              exact .ok ⟨by rw [hfirst.1, hmore.1], hmore.2⟩
            · exact .ok ⟨rfl, h⟩

theorem parallel_head (h : Alike us ts) :
    Parallel (Taken.Alike Eq) (head stop us) (head stop' ts) := by
  refine (parallel_path hstop h).bind fun p p' hp => ?_
  refine (parallel_params hstop _ (Nat.lt_succ_self _) hp.2).bind fun params params' hparams => ?_
  refine (parallel_close hstop hparams.2).bind fun _ _ hclose => ?_
  exact .ok ⟨by rw [hp.1, hparams.1], hclose.2⟩

theorem parallel_inclusion (h : Alike us ts) :
    Parallel (Taken.Alike Eq) (inclusion stop us) (inclusion stop' ts) := by
  refine (parallel_expect hstop h _ _).bind fun name name' hname => ?_
  have htext := text_eq_of_symbol hname.1
  dsimp only
  rw [kind_eq_of_symbol (symbol_headD hstop hname.2)]
  split
  · refine (parallel_path hstop hname.2).bind fun context context' hcontext => ?_
    refine (parallel_close hstop hcontext.2).bind fun _ _ hclose => ?_
    exact .ok ⟨by rw [htext, hcontext.1], hclose.2⟩
  · refine (parallel_close hstop hname.2).bind fun _ _ hclose => ?_
    exact .ok ⟨by rw [htext], hclose.2⟩

theorem parallel_closing {opener opener' : Token} (hopener : opener.symbol = opener'.symbol)
    (opened : Path) (h : Alike us ts) :
    Parallel (Taken.Alike Eq) (closing stop opener opened us)
      (closing stop' opener' opened ts) := by
  cases ts with
  | nil =>
      obtain rfl := h.eq_nil
      exact .blamed _ hopener
  | cons t ts =>
      obtain ⟨u, us, rfl, hkind, htext, hus⟩ := h.exists_cons
      rw [closing, closing, hkind]
      split
      · refine (parallel_path hstop hus).bind fun closed closed' hclosed => ?_
        rw [hclosed.1]
        split
        · refine (parallel_close hstop hclosed.2).bind fun _ _ hclose => ?_
          exact .ok ⟨rfl, hclose.2⟩
        · exact .blamed _ (Prod.ext hkind htext)
      · exact .blamed _ hopener

/-- The closing tag of a block, and what comes after the block. -/
theorem parallel_afterBody {opener opener' : Token} (hopener : opener.symbol = opener'.symbol)
    (opened : Path) (mk : Path → Node) {inBody : Bool} {m n : Nat} (h : Alike us ts)
    {bound : ∀ (closed : Taken Path us.length)
      (more : Taken (List Node) (closed.rest.length + 1)), more.rest.length < m}
    {bound' : ∀ (closed : Taken Path ts.length)
      (more : Taken (List Node) (closed.rest.length + 1)), more.rest.length < n}
    (hmore : ∀ left left', left'.length < ts.length → Alike left left' →
      Parallel (Taken.Alike Eq) (statements stop inBody left) (statements stop' inBody left')) :
    Parallel (Taken.Alike Eq)
      (do
        let closed ← closing stop opener opened us
        let more ← statements stop inBody closed.rest
        .ok (⟨mk closed.value :: more.value, more.rest, bound closed more⟩ : Taken (List Node) m))
      (do
        let closed ← closing stop' opener' opened ts
        let more ← statements stop' inBody closed.rest
        .ok (⟨mk closed.value :: more.value, more.rest, bound' closed more⟩ :
          Taken (List Node) n)) := by
  refine (parallel_closing hstop hopener opened h).bind fun closed closed' hclosed => ?_
  refine (hmore _ _ closed'.shorter hclosed.2).bind fun more more' hrest => ?_
  exact .ok ⟨by rw [hclosed.1, hrest.1], hrest.2⟩

theorem parallel_statements (bound : Nat) {inBody : Bool} (hbound : ts.length < bound)
    (h : Alike us ts) :
    Parallel (Taken.Alike Eq) (statements stop inBody us) (statements stop' inBody ts) := by
  -- The calls for bodies and for what follows a statement are all on fewer tokens.
  induction bound generalizing inBody us ts with
  | zero => omega
  | succ bound ih =>
      cases ts with
      | nil =>
          obtain rfl := h.eq_nil
          rw [statements, statements]
          exact .ok ⟨rfl, h⟩
      | cons t ts =>
          obtain ⟨u, us, rfl, hkind, htext, hus⟩ := h.exists_cons
          have hsymbol : u.symbol = t.symbol := Prod.ext hkind htext
          rw [List.length_cons] at hbound
          rw [statements, statements, hkind]
          cases t.kind with
          | openEnd | eof => exact .ok ⟨rfl, h⟩
          | close | word | separator | literal => exact .blamed _ hsymbol
          | content | comment =>
              refine (ih (by omega) hus).bind fun more more' hmore => ?_
              exact .ok ⟨by rw [htext, hmore.1], hmore.2⟩
          | openValue =>
              refine (parallel_head hstop hus).bind fun first first' hfirst => ?_
              have hshorter := first'.shorter
              refine (ih (by omega) hfirst.2).bind fun more more' hmore => ?_
              exact .ok ⟨by rw [hfirst.1, hmore.1], hmore.2⟩
          | openPartial =>
              refine (parallel_inclusion hstop hus).bind fun first first' hfirst => ?_
              have hshorter := first'.shorter
              refine (ih (by omega) hfirst.2).bind fun more more' hmore => ?_
              exact .ok ⟨by rw [hfirst.1, hmore.1], hmore.2⟩
          | openBlock =>
              refine (parallel_head hstop hus).bind fun first first' hfirst => ?_
              have hhead := first'.shorter
              refine (ih (by omega) hfirst.2).bind fun body body' hbody => ?_
              have hprimary := body'.shorter
              rw [hfirst.1, hbody.1]
              rcases afterInverse_alike hbody.2 with
                ⟨hnone, hnone'⟩ | ⟨left, left', hleft, hleft', hinside⟩
              · rw [hnone, hnone']
                exact parallel_afterBody hstop hsymbol _
                  (fun q => .block _ _ (.program body'.value) none (some (.path q)) false) hbody.2
                  fun _ _ hlt hmore => ih (by omega) hmore
              · rw [hleft, hleft']
                have hbare := left'.2
                refine (ih (by omega) hinside).bind fun other other' hother => ?_
                have hinverse := other'.shorter
                rw [hother.1]
                exact parallel_afterBody hstop hsymbol _
                  (fun q => .block _ _ (.program body'.value) (some (.program other'.value))
                    (some (.path q)) false) hother.2 fun _ _ hlt hmore => ih (by omega) hmore
          | openInverse =>
              dsimp only
              rw [kind_eq_of_symbol (symbol_headD hstop hus)]
              split
              · split
                · exact .ok ⟨rfl, h⟩
                · exact .blamed _ hsymbol
              · refine (parallel_head hstop hus).bind fun first first' hfirst => ?_
                have hhead := first'.shorter
                refine (ih (by omega) hfirst.2).bind fun body body' hbody => ?_
                have hprimary := body'.shorter
                rw [hfirst.1, hbody.1]
                exact parallel_afterBody hstop hsymbol _
                  (fun q => .block _ _ (.program body'.value) none (some (.path q)) true) hbody.2
                  fun _ _ hlt hmore => ih (by omega) hmore

theorem parallel_template (h : Alike us ts) :
    Parallel Eq (template stop us) (template stop' ts) := by
  refine (parallel_statements hstop _ (Nat.lt_succ_self _) h).bind fun all all' hall => ?_
  obtain ⟨hvalue, hrest⟩ := hall
  cases hts : all'.rest with
  | nil =>
      rw [hts] at hrest
      rw [hrest.eq_nil]
      exact .ok (by rw [hvalue])
  | cons t ts =>
      rw [hts] at hrest
      obtain ⟨u, us, hus, hkind, htext, -⟩ := hrest.exists_cons
      rw [hus]
      dsimp only
      rw [hkind]
      split
      · exact .blamed _ (Prod.ext hkind htext)
      · exact .blamed _ (Prod.ext hkind htext)

end Parser

/-- **The places of tokens do not matter**: tokens that say the same give the same tree, or the same
problem at tokens that say the same. -/
theorem parallel_ofTokens {us ts : List Token} (h : Token.Alike us ts) :
    Parallel Eq (ofTokens us) (ofTokens ts) := by
  have hlast : us.getLast?.map symbol = ts.getLast?.map symbol := by
    rw [← List.getLast?_map, ← List.getLast?_map, show us.map symbol = ts.map symbol from h]
  have hfind : (us.find? (·.kind = .eof)).map symbol = (ts.find? (·.kind = .eof)).map symbol :=
    h.find? fun s => s.1 = .eof
  have hbefore : Alike (us.takeWhile (·.kind ≠ .eof)) (ts.takeWhile (·.kind ≠ .eof)) := by
    have hmap := congrArg (List.takeWhile fun s => s.1 ≠ TokenKind.eof) h
    rwa [List.takeWhile_map, List.takeWhile_map] at hmap
  unfold ofTokens
  cases hts : ts.getLast? with
  | none =>
      rw [hts] at hlast
      rw [Option.map_eq_none_iff.1 hlast]
      exact .error ⟨rfl, rfl⟩
  | some t =>
      rw [hts] at hlast
      obtain ⟨u, hus, hsymbol⟩ := Option.map_eq_some_iff.1 hlast
      rw [hus]
      dsimp only
      rw [kind_eq_of_symbol hsymbol]
      split
      · refine Parser.parallel_template ?_ hbefore
        rw [← Option.getD_map symbol, ← Option.getD_map symbol, hsymbol, hfind]
      · exact .blamed _ hsymbol

end Node

end Templating
