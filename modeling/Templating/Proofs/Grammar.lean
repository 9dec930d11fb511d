import Mathlib.Data.List.TakeWhile
import Templating.Node.Parser

/-!
# The grammar of templates

Which tokens make which tree, said without a parser. Derivations are relations between the tokens
before the end of a template and what they stand for:

* `Segments` and `IsPath`: a path is a word, and further words with a separator before each;
* `Params` and `Tag`: a tag is an opening delimiter, a path, parameters and a closing delimiter;
* `Statements`: a program, with the blocks inside it.

A derivation looks at the kinds and the texts of tokens only, never at their places
(`Statements.congr`). Steps to parents that follow a name derive no path.
-/

namespace Templating

/-- What a token says, wherever it stands. -/
def Token.symbol (t : Token) : TokenKind × String :=
  (t.kind, t.text)

theorem Token.kind_eq_of_symbol {t u : Token} (h : t.symbol = u.symbol) : t.kind = u.kind :=
  congrArg Prod.fst h

theorem Token.text_eq_of_symbol {t u : Token} (h : t.symbol = u.symbol) : t.text = u.text :=
  congrArg Prod.snd h

/-- Tokens that say the same one by one, perhaps at other places. -/
def Token.Alike (us ts : List Token) : Prop :=
  us.map Token.symbol = ts.map Token.symbol

namespace Token.Alike

variable {us vs ts ws : List Token} {t : Token}

theorem refl (ts : List Token) : Alike ts ts := rfl

theorem symm (h : Alike us ts) : Alike ts us := Eq.symm h

theorem trans (h : Alike us vs) (h' : Alike vs ts) : Alike us ts := Eq.trans h h'

theorem append (h : Alike us ts) (h' : Alike vs ws) : Alike (us ++ vs) (ts ++ ws) := by
  unfold Alike at *
  rw [List.map_append, List.map_append, h, h']

theorem cons {u : Token} (h : u.symbol = t.symbol) (h' : Alike us ts) :
    Alike (u :: us) (t :: ts) := by
  unfold Alike at *
  rw [List.map_cons, List.map_cons, h, h']

theorem eq_nil (h : Alike us []) : us = [] := by
  simpa [Alike] using h

/-- Taking the first token off both sides. -/
theorem exists_cons (h : Alike us (t :: ts)) :
    ∃ u vs, us = u :: vs ∧ u.kind = t.kind ∧ u.text = t.text ∧ Alike vs ts := by
  obtain ⟨u, vs, rfl, hu, hvs⟩ := List.map_eq_cons_iff.1 h
  exact ⟨u, vs, rfl, kind_eq_of_symbol hu, text_eq_of_symbol hu, hvs⟩

/-- Splitting both sides at the same place. -/
theorem exists_append (h : Alike us (ts ++ ws)) :
    ∃ vs xs, us = vs ++ xs ∧ Alike vs ts ∧ Alike xs ws := by
  unfold Alike at h
  rw [List.map_append] at h
  obtain ⟨vs, xs, rfl, hvs, hxs⟩ := List.map_eq_append_iff.1 h
  exact ⟨vs, xs, rfl, hvs, hxs⟩

theorem exists_mem {u : Token} (h : Alike us ts) (hu : u ∈ us) : ∃ t ∈ ts, t.symbol = u.symbol := by
  have hmem : u.symbol ∈ ts.map symbol := h ▸ List.mem_map_of_mem hu
  exact List.mem_map.1 hmem

theorem map_text (h : Alike us ts) : us.map (·.text) = ts.map (·.text) := by
  have := congrArg (List.map Prod.snd) h
  simpa [List.map_map, Function.comp_def, symbol] using this

end Token.Alike

namespace Grammar

/-- The texts of segments without the `this` that may be the first of them after the leading steps
to parents. -/
def withoutThis (texts : List String) : List String :=
  texts.takeWhile (· = Path.parentSegment) ++
    match texts.dropWhile (· = Path.parentSegment) with
    | [] => []
    | text :: rest => if text = Path.thisSegment then rest else text :: rest

/-- Tokens that are segments with separators between them, and the texts of the segments. -/
inductive Segments : List Token → List String → Prop where
  | one {word : Token} (hword : word.kind = .word) : Segments [word] [word.text]
  | more {word separator : Token} {ts : List Token} {texts : List String}
      (hword : word.kind = .word) (hseparator : separator.kind = .separator)
      (rest : Segments ts texts) : Segments (word :: separator :: ts) (word.text :: texts)

/-- Tokens that write a path: steps to parents, then names, with a `this` between them or not. -/
inductive IsPath : List Token → Path → Prop where
  | intro {ts : List Token} {texts parts : List String} {depth : Nat} (segments : Segments ts texts)
      (steps : withoutThis texts = List.replicate depth Path.parentSegment ++ parts)
      (names : Path.parentSegment ∉ parts) :
      IsPath ts ⟨parts, depth, String.join (ts.map (·.text))⟩

/-- Tokens that write parameters. -/
inductive Params : List Token → List Node → Prop where
  | nil : Params [] []
  | literal {t : Token} {ts : List Token} {ns : List Node} (ht : t.kind = .literal)
      (rest : Params ts ns) : Params (t :: ts) (.literal t.text :: ns)
  | path {us ts : List Token} {p : Path} {ns : List Node} (first : IsPath us p)
      (rest : Params ts ns) : Params (us ++ ts) (.path p :: ns)

/-- Tokens that write a tag with a path and parameters, opened by a delimiter of the given kind. -/
inductive Tag (kind : TokenKind) : List Token → Path → List Node → Prop where
  | intro {opener finish : Token} {us vs : List Token} {p : Path} {params : List Node}
      (hopener : opener.kind = kind) (path : IsPath us p) (more : Params vs params)
      (hfinish : finish.kind = .close) : Tag kind (opener :: (us ++ vs ++ [finish])) p params

/-- Tokens that write a tag with a path alone, which closes a block. -/
inductive Closing : List Token → Path → Prop where
  | intro {opener finish : Token} {us : List Token} {p : Path} (hopener : opener.kind = .openEnd)
      (path : IsPath us p) (hfinish : finish.kind = .close) :
      Closing (opener :: (us ++ [finish])) p

/-- Tokens that write an inclusion. -/
inductive Inclusion : List Token → Node → Prop where
  | plain {opener name finish : Token} (hopener : opener.kind = .openPartial)
      (hname : name.kind = .word) (hfinish : finish.kind = .close) :
      Inclusion [opener, name, finish] (.inclusion name.text none)
  | within {opener name finish : Token} {us : List Token} {p : Path}
      (hopener : opener.kind = .openPartial) (hname : name.kind = .word) (context : IsPath us p)
      (hfinish : finish.kind = .close) :
      Inclusion (opener :: name :: (us ++ [finish])) (.inclusion name.text (some (.path p)))

/-- Two tokens that write the tag before an inverse part. -/
def BareInverse (opener finish : Token) : Prop :=
  opener.kind = .openInverse ∧ finish.kind = .close

/-- Tokens that write a program. Only the primary body of a block has an inverse part after it, and
at most one; a closing tag has the path of its opening tag as it was written there. -/
inductive Statements : List Token → List Node → Prop where
  | nil : Statements [] []
  | content {t : Token} {ts : List Token} {ns : List Node} (ht : t.kind = .content)
      (rest : Statements ts ns) : Statements (t :: ts) (.content t.text :: ns)
  | comment {t : Token} {ts : List Token} {ns : List Node} (ht : t.kind = .comment)
      (rest : Statements ts ns) : Statements (t :: ts) (.comment t.text :: ns)
  | insertion {us ts : List Token} {p : Path} {params ns : List Node}
      (tag : Tag .openValue us p params) (rest : Statements ts ns) :
      Statements (us ++ ts) (.insertion p params :: ns)
  | inclusion {us ts : List Token} {n : Node} {ns : List Node} (tag : Inclusion us n)
      (rest : Statements ts ns) : Statements (us ++ ts) (n :: ns)
  | block {us vs ws ts : List Token} {p q : Path} {params body ns : List Node}
      (tag : Tag .openBlock us p params) (primary : Statements vs body) (closing : Closing ws q)
      (same : q.written = p.written) (rest : Statements ts ns) :
      Statements (us ++ (vs ++ (ws ++ ts)))
        (.block p params (.program body) none (some (.path q)) false :: ns)
  | blockInverse {us vs is ws ts : List Token} {opener finish : Token} {p q : Path}
      {params body inverse ns : List Node} (tag : Tag .openBlock us p params)
      (primary : Statements vs body) (bare : BareInverse opener finish)
      (other : Statements is inverse) (closing : Closing ws q) (same : q.written = p.written)
      (rest : Statements ts ns) :
      Statements (us ++ (vs ++ (opener :: finish :: (is ++ (ws ++ ts)))))
        (.block p params (.program body) (some (.program inverse)) (some (.path q)) false :: ns)
  | inverted {us vs ws ts : List Token} {p q : Path} {params body ns : List Node}
      (tag : Tag .openInverse us p params) (primary : Statements vs body) (closing : Closing ws q)
      (same : q.written = p.written) (rest : Statements ts ns) :
      Statements (us ++ (vs ++ (ws ++ ts)))
        (.block p params (.program body) none (some (.path q)) true :: ns)

/-- Tokens that write a template: the last is an end token, and what stands before the first end
token is a program. What follows the first end token counts for nothing else. -/
def Template (tokens : List Token) (n : Node) : Prop :=
  (∃ last, tokens.getLast? = some last ∧ last.kind = .eof) ∧
    ∃ ns, n = .program ns ∧ Statements (tokens.takeWhile (·.kind ≠ .eof)) ns

/-- A path begins with a word. -/
theorem IsPath.exists_word {us : List Token} {p : Path} (h : IsPath us p) :
    ∃ word vs, us = word :: vs ∧ word.kind = .word := by
  obtain ⟨segments, -, -⟩ := h
  cases segments with
  | one hword => exact ⟨_, _, rfl, hword⟩
  | more hword _ _ => exact ⟨_, _, rfl, hword⟩

theorem Tag.head {kind : TokenKind} {us : List Token} {p : Path} {params : List Node}
    (h : Tag kind us p params) : ∃ opener vs, us = opener :: vs ∧ opener.kind = kind := by
  obtain ⟨hopener, -, -, -⟩ := h
  exact ⟨_, _, rfl, hopener⟩

/-- A program that begins with text. -/
theorem Statements.of_content {u : Token} {us : List Token} {ns : List Node}
    (h : Statements (u :: us) ns) (hu : u.kind = .content) :
    ∃ ns', ns = .content u.text :: ns' ∧ Statements us ns' := by
  generalize hxs : u :: us = xs at h
  cases h with
  | nil => cases hxs
  | content ht rest =>
      cases hxs
      exact ⟨_, rfl, rest⟩
  | comment ht _ =>
      cases hxs
      rw [hu] at ht
      cases ht
  | insertion tag _ | block tag _ _ _ _ | blockInverse tag _ _ _ _ _ _ | inverted tag _ _ _ _ =>
      obtain ⟨opener, vs, rfl, hopener⟩ := tag.head
      cases hxs
      rw [hu] at hopener
      cases hopener
  | inclusion tag _ =>
      cases tag with
      | plain hopener _ _ | within hopener _ _ _ =>
          cases hxs
          rw [hu] at hopener
          cases hopener

/-! ## Places do not count -/

section Congruence

open Token

variable {us ts : List Token}

theorem Segments.congr {texts : List String} (h : Segments ts texts) (hus : Alike us ts) :
    Segments us texts := by
  induction h generalizing us with
  | one hword =>
      obtain ⟨u, vs, rfl, hkind, htext, hvs⟩ := hus.exists_cons
      rw [hvs.eq_nil, ← htext]
      exact .one (hkind.trans hword)
  | more hword hseparator _ ih =>
      obtain ⟨u, vs, rfl, hkind, htext, hvs⟩ := hus.exists_cons
      obtain ⟨v, ws, rfl, hkind', -, hws⟩ := hvs.exists_cons
      rw [← htext]
      exact .more (hkind.trans hword) (hkind'.trans hseparator) (ih hws)

theorem IsPath.congr {p : Path} (h : IsPath ts p) (hus : Alike us ts) : IsPath us p := by
  obtain ⟨segments, steps, names⟩ := h
  rw [← hus.map_text]
  exact .intro (segments.congr hus) steps names

theorem Params.congr {ns : List Node} (h : Params ts ns) (hus : Alike us ts) : Params us ns := by
  induction h generalizing us with
  | nil =>
      rw [hus.eq_nil]
      exact .nil
  | literal ht _ ih =>
      obtain ⟨u, vs, rfl, hkind, htext, hvs⟩ := hus.exists_cons
      rw [← htext]
      exact .literal (hkind.trans ht) (ih hvs)
  | path first _ ih =>
      obtain ⟨vs, ws, rfl, hvs, hws⟩ := hus.exists_append
      exact .path (first.congr hvs) (ih hws)

theorem Tag.congr {kind : TokenKind} {p : Path} {params : List Node} (h : Tag kind ts p params)
    (hus : Alike us ts) : Tag kind us p params := by
  obtain ⟨hopener, path, more, hfinish⟩ := h
  obtain ⟨u, xs, rfl, hkind, -, hxs⟩ := hus.exists_cons
  obtain ⟨ys, zs, rfl, hys, hzs⟩ := hxs.exists_append
  obtain ⟨vs, ws, rfl, hvs, hws⟩ := hys.exists_append
  obtain ⟨v, es, rfl, hkind', -, hes⟩ := hzs.exists_cons
  rw [hes.eq_nil]
  exact .intro (hkind.trans hopener) (path.congr hvs) (more.congr hws) (hkind'.trans hfinish)

theorem Closing.congr {p : Path} (h : Closing ts p) (hus : Alike us ts) : Closing us p := by
  obtain ⟨hopener, path, hfinish⟩ := h
  obtain ⟨u, xs, rfl, hkind, -, hxs⟩ := hus.exists_cons
  obtain ⟨vs, ws, rfl, hvs, hws⟩ := hxs.exists_append
  obtain ⟨v, es, rfl, hkind', -, hes⟩ := hws.exists_cons
  rw [hes.eq_nil]
  exact .intro (hkind.trans hopener) (path.congr hvs) (hkind'.trans hfinish)

theorem Inclusion.congr {n : Node} (h : Inclusion ts n) (hus : Alike us ts) : Inclusion us n := by
  cases h with
  | plain hopener hname hfinish =>
      obtain ⟨u, xs, rfl, hu, -, hxs⟩ := hus.exists_cons
      obtain ⟨v, ys, rfl, hv, htext, hys⟩ := hxs.exists_cons
      obtain ⟨w, es, rfl, hw, -, hes⟩ := hys.exists_cons
      rw [hes.eq_nil, ← htext]
      exact .plain (hu.trans hopener) (hv.trans hname) (hw.trans hfinish)
  | within hopener hname context hfinish =>
      obtain ⟨u, xs, rfl, hu, -, hxs⟩ := hus.exists_cons
      obtain ⟨v, ys, rfl, hv, htext, hys⟩ := hxs.exists_cons
      obtain ⟨vs, ws, rfl, hvs, hws⟩ := hys.exists_append
      obtain ⟨w, es, rfl, hw, -, hes⟩ := hws.exists_cons
      rw [hes.eq_nil, ← htext]
      exact .within (hu.trans hopener) (hv.trans hname) (context.congr hvs) (hw.trans hfinish)

/-- A program is written by the kinds and the texts of its tokens. -/
theorem Statements.congr {ns : List Node} (h : Statements ts ns) (hus : Alike us ts) :
    Statements us ns := by
  induction h generalizing us with
  | nil =>
      rw [hus.eq_nil]
      exact .nil
  | content ht _ ih =>
      obtain ⟨u, vs, rfl, hkind, htext, hvs⟩ := hus.exists_cons
      rw [← htext]
      exact .content (hkind.trans ht) (ih hvs)
  | comment ht _ ih =>
      obtain ⟨u, vs, rfl, hkind, htext, hvs⟩ := hus.exists_cons
      rw [← htext]
      exact .comment (hkind.trans ht) (ih hvs)
  | insertion tag _ ih =>
      obtain ⟨vs, ws, rfl, hvs, hws⟩ := hus.exists_append
      exact .insertion (tag.congr hvs) (ih hws)
  | inclusion tag _ ih =>
      obtain ⟨vs, ws, rfl, hvs, hws⟩ := hus.exists_append
      exact .inclusion (tag.congr hvs) (ih hws)
  | block tag _ closing same _ ihBody ih =>
      obtain ⟨vs, xs, rfl, hvs, hxs⟩ := hus.exists_append
      obtain ⟨ws, ys, rfl, hws, hys⟩ := hxs.exists_append
      obtain ⟨cs, es, rfl, hcs, hes⟩ := hys.exists_append
      exact .block (tag.congr hvs) (ihBody hws) (closing.congr hcs) same (ih hes)
  | blockInverse tag _ bare _ closing same _ ihBody ihOther ih =>
      obtain ⟨vs, xs, rfl, hvs, hxs⟩ := hus.exists_append
      obtain ⟨ws, ys, rfl, hws, hys⟩ := hxs.exists_append
      obtain ⟨u, zs, rfl, hu, -, hzs⟩ := hys.exists_cons
      obtain ⟨v, as, rfl, hv, -, has⟩ := hzs.exists_cons
      obtain ⟨is, bs, rfl, his, hbs⟩ := has.exists_append
      obtain ⟨cs, es, rfl, hcs, hes⟩ := hbs.exists_append
      exact .blockInverse (tag.congr hvs) (ihBody hws) ⟨hu.trans bare.1, hv.trans bare.2⟩
        (ihOther his) (closing.congr hcs) same (ih hes)
  | inverted tag _ closing same _ ihBody ih =>
      obtain ⟨vs, xs, rfl, hvs, hxs⟩ := hus.exists_append
      obtain ⟨ws, ys, rfl, hws, hys⟩ := hxs.exists_append
      obtain ⟨cs, es, rfl, hcs, hes⟩ := hys.exists_append
      exact .inverted (tag.congr hvs) (ihBody hws) (closing.congr hcs) same (ih hes)

end Congruence

end Grammar

end Templating
