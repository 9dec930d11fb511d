import Mathlib.Data.List.Chain
import Templating.Proofs.Spelling

/-!
# The tidy writing of tokens

Printing a parsed template writes its tokens in a row, with one blank before each word or literal
that follows another one inside a tag and no other blank (`Grammar.Statements.lays`). Read again,
the row falls into the same tokens unless a dot comes before the two dots of a step to the parent
(`Spells.layout`), for then the three dots are read as a step and a dot (`Spells.not_dotted`).
Tokens that come from no text are read from their row too, if they can stand side by side
(`Flows.layout`).
-/

namespace Templating

open Token Scan

/-- Whether a token is a part of a tag that needs a blank after another such part. -/
def Token.isOperand (t : Token) : Bool :=
  t.kind = .word ∨ t.kind = .literal

/-- The blank before a token. `after` says that an operand came before. -/
def gap (after : Bool) (t : Token) : List Char :=
  if after && t.isOperand then [' '] else []

/-- Tokens written in a row. -/
def layout (after : Bool) : List Token → List Char
  | [] => []
  | t :: ts => gap after t ++ (t.raw ++ layout t.isOperand ts)

/-- The tokens `us` are written as `cs` after what `after` says, and what comes behind them is
written as `out` says. -/
def Lays (after : Bool) (us : List Token) (cs : List Char) (out : Bool) : Prop :=
  ∀ ts, layout after (us ++ ts) = cs ++ layout out ts

namespace Lays

variable {a b c : Bool} {us vs : List Token} {cs ds : List Char}

theorem nil : Lays a [] [] a := fun _ => rfl

theorem one (t : Token) : Lays a [t] (gap a t ++ t.raw) t.isOperand := by
  intro ts
  rw [List.singleton_append, layout, List.append_assoc]

theorem append (h : Lays a us cs b) (h' : Lays b vs ds c) : Lays a (us ++ vs) (cs ++ ds) c := by
  intro ts
  rw [List.append_assoc, h, h', List.append_assoc]

theorem layout_eq (h : Lays a us cs b) : layout a us = cs := by
  have := h []
  rwa [List.append_nil, layout, List.append_nil] at this

end Lays

namespace Grammar

theorem lays_symbol {t : Token} {a : Bool} (h : t.isOperand = false) : Lays a [t] t.raw false := by
  simpa [gap, h] using Lays.one (a := a) t

theorem lays_word {t : Token} {a : Bool} (h : t.kind = .word) :
    Lays a [t] ((if a then [' '] else []) ++ t.text.toList) true := by
  have hoperand : t.isOperand = true := by simp [isOperand, h]
  have hraw : t.raw = t.text.toList := by simp [raw, h]
  simpa [gap, hoperand, hraw] using Lays.one (a := a) t

theorem Segments.lays {a : Bool} {us : List Token} {texts : List String} (h : Segments us texts) :
    Lays a us ((if a then [' '] else []) ++ (String.join (us.map (·.text))).toList) true := by
  induction h generalizing a with
  | one hword => simpa [String.join] using lays_word hword
  | @more word separator ts texts hword hseparator _ ih =>
      have hraw : separator.raw = separator.text.toList := by simp [raw, hseparator]
      have hdot := lays_symbol (t := separator) (a := true) (by simp [isOperand, hseparator])
      have := (lays_word (a := a) hword).append (hdot.append (ih (a := false)))
      simpa [hraw] using this

theorem IsPath.lays {a : Bool} {us : List Token} {p : Path} (h : IsPath us p) :
    Lays a us ((if a then [' '] else []) ++ p.written.toList) true := by
  obtain ⟨segments, -, -⟩ := h
  exact segments.lays

theorem Params.lays {us : List Token} {ns : List Node} (h : Params us ns) :
    Lays true us (Node.paramSources ns) true := by
  induction h with
  | nil => exact Lays.nil
  | @literal t ts ns ht _ ih =>
      have hoperand : t.isOperand = true := by simp [isOperand, ht]
      have := (Lays.one (a := true) t).append (hoperand ▸ ih)
      simpa [gap, hoperand, raw, ht, Node.paramSources, Node.source] using this
  | path first _ ih =>
      have := (first.lays (a := true)).append ih
      simpa [Node.paramSources, Node.source] using this

/-- The mark of an opening delimiter. -/
def mark : TokenKind → List Char
  | .openBlock => ['#']
  | .openEnd => ['/']
  | .openInverse => ['^']
  | .openPartial => ['>']
  | _ => []

theorem isOperand_opener {t : Token} (h : t.kind.isOpener = true) : t.isOperand = false := by
  rcases t with ⟨kind, text, p⟩
  cases kind with
  | word | literal => cases h
  | _ => rfl

theorem raw_opener {t : Token} (h : t.kind.isOpener = true) (hfits : t.Fits) :
    t.raw = ['\x7b', '\x7b'] ++ mark t.kind := by
  rcases t with ⟨kind, text, p⟩
  cases kind with
  | openValue | openBlock | openEnd | openInverse | openPartial =>
      cases (show text = _ from hfits)
      simp [raw, mark]
  | _ => cases h

theorem raw_close {t : Token} (h : t.kind = .close) (hfits : t.Fits) :
    t.raw = ['\x7d', '\x7d'] := by
  rcases t with ⟨kind, text, p⟩
  cases h
  cases (show text = _ from hfits)
  simp [raw]

/-- An opening delimiter, the inside of a tag and a closing delimiter. -/
theorem lays_tag {a b : Bool} {opener finish : Token} {us : List Token} {cs : List Char}
    (hopener : opener.kind.isOpener = true) (hfinish : finish.kind = .close)
    (hfits : ∀ t ∈ opener :: (us ++ [finish]), t.Fits) (h : Lays false us cs b) :
    Lays a (opener :: (us ++ [finish])) (Node.tag (mark opener.kind) cs) false := by
  have hraw := raw_opener hopener (hfits opener (by simp))
  have hraw' := raw_close hfinish (hfits finish (by simp))
  have hstart := lays_symbol (a := a) (isOperand_opener hopener)
  have hend := lays_symbol (t := finish) (a := b) (by simp [isOperand, hfinish])
  have := hstart.append (h.append hend)
  simpa [hraw, hraw', Node.tag] using this

theorem Tag.lays {a : Bool} {kind : TokenKind} {us : List Token} {p : Path} {params : List Node}
    (h : Tag kind us p params) (hkind : kind.isOpener = true) (hfits : ∀ t ∈ us, t.Fits) :
    Lays a us (Node.tag (mark kind) (p.written.toList ++ Node.paramSources params)) false := by
  obtain ⟨rfl, path, more, hfinish⟩ := h
  exact lays_tag hkind hfinish hfits (path.lays.append more.lays)

theorem Closing.lays {a : Bool} {us : List Token} {p : Path} (h : Closing us p)
    (hfits : ∀ t ∈ us, t.Fits) : Lays a us (Node.tag ['/'] p.written.toList) false := by
  obtain ⟨hopener, path, hfinish⟩ := h
  have := lays_tag (a := a) (by rw [hopener]; rfl) hfinish hfits path.lays
  rwa [hopener] at this

theorem Inclusion.lays {a : Bool} {us : List Token} {n : Node} (h : Inclusion us n)
    (hfits : ∀ t ∈ us, t.Fits) : Lays a us n.source false := by
  cases h with
  | plain hopener hname hfinish =>
      have := lays_tag (a := a) (by rw [hopener]; rfl) hfinish hfits (lays_word hname)
      rw [hopener] at this
      simpa [Node.source, mark] using this
  | within hopener hname context hfinish =>
      have := lays_tag (a := a) (by rw [hopener]; rfl) hfinish hfits
        ((lays_word hname).append context.lays)
      rw [hopener] at this
      simpa [Node.source, mark] using this

/-- A parsed program is printed as its tokens in a row. -/
theorem Statements.lays {ts : List Token} {ns : List Node} (h : Statements ts ns)
    (hfits : ∀ t ∈ ts, t.Fits) : Lays false ts (Node.sources ns) false := by
  induction h with
  | nil => exact Lays.nil
  | @content t ts ns ht _ ih =>
      have hfirst := lays_symbol (t := t) (a := false) (by simp [isOperand, ht])
      have := hfirst.append (ih fun t' ht' => hfits t' (by simp [ht']))
      simpa [raw, ht, Node.sources, Node.source] using this
  | @comment t ts ns ht _ ih =>
      have hfirst := lays_symbol (t := t) (a := false) (by simp [isOperand, ht])
      have := hfirst.append (ih fun t' ht' => hfits t' (by simp [ht']))
      simpa [raw, ht, Node.sources, Node.source] using this
  | insertion tag _ ih =>
      obtain ⟨htag, hrest⟩ := List.forall_mem_append.1 hfits
      simpa [Node.sources, Node.source, mark] using (tag.lays rfl htag).append (ih hrest)
  | inclusion tag _ ih =>
      obtain ⟨htag, hrest⟩ := List.forall_mem_append.1 hfits
      exact (tag.lays htag).append (ih hrest)
  | block tag _ closing _ _ ihBody ih =>
      simp only [List.forall_mem_append] at hfits
      obtain ⟨htag, hbody, hclosing, hrest⟩ := hfits
      have := (tag.lays (a := false) rfl htag).append
        ((ihBody hbody).append ((closing.lays hclosing).append (ih hrest)))
      simpa [Node.sources, Node.source, mark] using this
  | @blockInverse us vs is ws ts opener finish p q params body inverse ns tag _ bare _ closing _ _
      ihBody ihOther ih =>
      simp only [List.forall_mem_append, List.forall_mem_cons] at hfits
      obtain ⟨htag, hbody, hopener, hfinish, hother, hclosing, hrest⟩ := hfits
      have hbare : ∀ t ∈ [opener, finish], t.Fits := by simp [hopener, hfinish]
      have hmark := lays_tag (a := false) (by rw [bare.1]; rfl) bare.2 hbare Lays.nil
      have := (tag.lays (a := false) rfl htag).append ((ihBody hbody).append (hmark.append
        ((ihOther hother).append ((closing.lays hclosing).append (ih hrest)))))
      simpa [Node.sources, Node.source, mark, bare.1] using this
  | inverted tag _ closing _ _ ihBody ih =>
      simp only [List.forall_mem_append] at hfits
      obtain ⟨htag, hbody, hclosing, hrest⟩ := hfits
      have := (tag.lays (a := false) rfl htag).append
        ((ihBody hbody).append ((closing.lays hclosing).append (ih hrest)))
      simpa [Node.sources, Node.source, mark] using this

end Grammar

/-! ## Tokens side by side -/

/-- After the start of an insertion, and after a separator, stands a word. -/
def Adjoins (t u : Token) : Prop :=
  t.kind = .openValue ∨ t.kind = .separator → u.kind = .word

/-- A dot before the two dots of a step to the parent. -/
def Dotted (t u : Token) : Prop :=
  t.symbol = (.separator, ".") ∧ u.symbol = (.word, Path.parentSegment)

namespace Grammar

theorem adjoins_cons {t : Token} {ts : List Token} (hvalue : t.kind ≠ .openValue)
    (hseparator : t.kind ≠ .separator) (h : ts.IsChain Adjoins) : (t :: ts).IsChain Adjoins := by
  refine List.isChain_cons.2 ⟨fun u _ => ?_, h⟩
  rintro (hkind | hkind)
  · exact absurd hkind hvalue
  · exact absurd hkind hseparator

theorem adjoins_cons_word {t u : Token} {ts : List Token} (hu : u.kind = .word)
    (h : (u :: ts).IsChain Adjoins) : (t :: u :: ts).IsChain Adjoins :=
  .cons_cons (fun _ => hu) h

variable {us rest : List Token}

theorem Segments.adjoins {texts : List String} (h : Segments us texts)
    (hrest : rest.IsChain Adjoins) : (us ++ rest).IsChain Adjoins := by
  induction h with
  | one hword => exact adjoins_cons (by simp [hword]) (by simp [hword]) hrest
  | more hword _ more ih =>
      refine adjoins_cons (by simp [hword]) (by simp [hword]) ?_
      cases more with
      | one hnext => exact adjoins_cons_word hnext ih
      | more hnext _ _ => exact adjoins_cons_word hnext ih

theorem Params.adjoins {ns : List Node} (h : Params us ns) (hrest : rest.IsChain Adjoins) :
    (us ++ rest).IsChain Adjoins := by
  induction h with
  | nil => exact hrest
  | literal ht _ ih => exact adjoins_cons (by simp [ht]) (by simp [ht]) ih
  | path first _ ih =>
      obtain ⟨segments, -, -⟩ := first
      rw [List.append_assoc]
      exact segments.adjoins ih

/-- A tag that begins with a path after its opening delimiter. -/
theorem adjoins_opener {opener : Token} {vs : List Token} {p : Path} (h : IsPath us p)
    (hvs : vs.IsChain Adjoins) : (opener :: (us ++ vs)).IsChain Adjoins := by
  obtain ⟨word, ws, hus, hword⟩ := h.exists_word
  obtain ⟨segments, -, -⟩ := h
  have := segments.adjoins hvs
  rw [hus] at this ⊢
  exact adjoins_cons_word hword this

theorem adjoins_close {finish : Token} (h : finish.kind = .close) (hrest : rest.IsChain Adjoins) :
    ([finish] ++ rest).IsChain Adjoins :=
  adjoins_cons (by simp [h]) (by simp [h]) hrest

theorem Tag.adjoins {kind : TokenKind} {p : Path} {params : List Node} (h : Tag kind us p params)
    (hrest : rest.IsChain Adjoins) : (us ++ rest).IsChain Adjoins := by
  obtain ⟨-, path, more, hfinish⟩ := h
  simpa using adjoins_opener path (more.adjoins (adjoins_close hfinish hrest))

theorem Closing.adjoins {p : Path} (h : Closing us p) (hrest : rest.IsChain Adjoins) :
    (us ++ rest).IsChain Adjoins := by
  obtain ⟨-, path, hfinish⟩ := h
  simpa using adjoins_opener path (adjoins_close hfinish hrest)

theorem Inclusion.adjoins {n : Node} (h : Inclusion us n) (hrest : rest.IsChain Adjoins) :
    (us ++ rest).IsChain Adjoins := by
  cases h with
  | plain hopener hname hfinish =>
      exact adjoins_cons_word hname
        (adjoins_cons (by simp [hname]) (by simp [hname]) (adjoins_close hfinish hrest))
  | within hopener hname context hfinish =>
      refine adjoins_cons_word hname (adjoins_cons (by simp [hname]) (by simp [hname]) ?_)
      obtain ⟨segments, -, -⟩ := context
      simpa using segments.adjoins (adjoins_close hfinish hrest)

theorem Statements.adjoins {ns : List Node} (h : Statements us ns) (hrest : rest.IsChain Adjoins) :
    (us ++ rest).IsChain Adjoins := by
  induction h generalizing rest with
  | nil => exact hrest
  | content ht _ ih => exact adjoins_cons (by simp [ht]) (by simp [ht]) (ih hrest)
  | comment ht _ ih => exact adjoins_cons (by simp [ht]) (by simp [ht]) (ih hrest)
  | insertion tag _ ih => simpa using tag.adjoins (ih hrest)
  | inclusion tag _ ih => simpa using tag.adjoins (ih hrest)
  | block tag _ closing _ _ ihBody ih =>
      simpa using tag.adjoins (ihBody (closing.adjoins (ih hrest)))
  | @blockInverse _ _ _ _ _ opener _ _ _ _ _ _ _ tag _ bare _ closing _ _ ihBody ihOther ih =>
      have := adjoins_cons (t := opener) (by simp [bare.1]) (by simp [bare.1])
        (adjoins_close bare.2 (ihOther (closing.adjoins (ih hrest))))
      simpa using tag.adjoins (ihBody this)
  | inverted tag _ closing _ _ ihBody ih =>
      simpa using tag.adjoins (ihBody (closing.adjoins (ih hrest)))

end Grammar

/-! ## Reading the tidy writing -/

theorem skips_gap {mode : Mode} {t : Token} (h : t.kind.mode = mode) (after : Bool) :
    Skips mode (gap after t) := by
  unfold gap
  split
  · rename_i hgap
    refine ⟨fun c hc => ?_, fun htext => ?_⟩
    · rw [List.mem_singleton.1 hc]
      decide
    have hoperand : t.isOperand = true := by simpa using (Bool.and_eq_true_iff.1 hgap).2
    rw [htext] at h
    rcases t with ⟨kind, text, p⟩
    cases kind with
    | word | literal => cases h
    | _ => cases hoperand
  · exact ⟨by simp, fun _ => rfl⟩

/-- A token outside tags that is no text begins with two braces. -/
theorem Token.exists_raw_braces {t : Token} (hmode : t.kind.mode = .text)
    (hcontent : t.kind ≠ .content) (hfits : t.Fits) :
    ∃ cs, t.raw = '\x7b' :: '\x7b' :: cs := by
  rcases t with ⟨kind, text, p⟩
  cases kind with
  | content => exact absurd rfl hcontent
  | comment => exact ⟨_, rfl⟩
  | openValue | openBlock | openEnd | openInverse | openPartial =>
      exact ⟨_, Grammar.raw_opener rfl hfits⟩
  | eof => exact hfits.elim
  | close | word | separator | literal => cases hmode

/-- Where two braces stand, no text outside tags begins. -/
theorem Token.ne_content_of_braces {t : Token} {rest cs : List Char} (hfits : t.Fits)
    (hbefore : t.Before rest) (h : t.raw ++ rest = '\x7b' :: '\x7b' :: cs) :
    t.kind ≠ .content := by
  rcases t with ⟨kind, text, p⟩
  rintro rfl
  obtain ⟨hne, hlacks⟩ := hfits
  change text.toList ++ rest = _ at h
  generalize hbody : text.toList = body at *
  match body with
  | [] => exact hne rfl
  | [c] =>
      rw [List.singleton_append, List.cons.injEq] at h
      rcases hbefore with rfl | ⟨ds, -, hlast⟩
      · cases h.2
      · simp [hbody, h.1] at hlast
  | c :: d :: ds =>
      simp only [List.cons_append, List.cons.injEq] at h
      rw [h.1, h.2.1, beforeTwice_twice] at hlacks
      cases hlacks

/-- No mark begins a word. -/
theorem Token.marks_apart {c : Char} (h : c ∈ marks) : Text.isWordChar c = false ∧ c ≠ '.' := by
  simp only [marks, List.mem_cons, List.not_mem_nil, or_false] at h
  rcases h with rfl | rfl | rfl | rfl | rfl <;> decide

/-- The first character of a word. -/
theorem Token.exists_raw_word {t : Token} (hkind : t.kind = .word) (hfits : t.Fits) :
    ∃ c cs, t.raw = c :: cs ∧
      (t.text = Path.parentSegment ∧ c = '.' ∨ Text.isWordChar c = true) := by
  rcases t with ⟨kind, text, p⟩
  cases hkind
  rcases hfits with rfl | ⟨hne, hall⟩
  · exact ⟨'.', ['.'], by simp [raw, Path.parentSegment], .inl ⟨rfl, rfl⟩⟩
  · obtain ⟨c, cs, hcs⟩ := List.exists_cons_of_ne_nil hne
    exact ⟨c, cs, hcs, .inr (hall c (by simp [hcs]))⟩

/-- A token inside a tag that is no operand begins with no word character. -/
theorem Token.exists_raw_symbol {t : Token} (hmode : t.kind.mode = .tag)
    (hoperand : t.isOperand = false) (hfits : t.Fits) :
    ∃ c cs, t.raw = c :: cs ∧ Text.isWordChar c = false := by
  rcases t with ⟨kind, text, p⟩
  cases kind with
  | close =>
      exact ⟨'\x7d', ['\x7d'], Grammar.raw_close rfl hfits, by decide⟩
  | separator =>
      rcases hfits with rfl | rfl
      · exact ⟨'/', [], by simp [raw], by decide⟩
      · exact ⟨'.', [], by simp [raw], by decide⟩
  | word | literal => cases hoperand
  | _ => cases hmode

section Next

variable {u : Token} (ts : List Token) (hfits : u.Fits)

include hfits

theorem exists_layout_braces (hmode : u.kind.mode = .text) (hcontent : u.kind ≠ .content) :
    ∃ cs, layout false (u :: ts) = '\x7b' :: '\x7b' :: cs := by
  obtain ⟨cs, hraw⟩ := exists_raw_braces hmode hcontent hfits
  have hgap : gap false u = [] := (skips_gap hmode false).2 rfl
  refine ⟨cs ++ layout u.isOperand ts, ?_⟩
  rw [layout, hgap, hraw]
  rfl

/-- The first character of a word that follows no operand. -/
theorem head_layout_word (hkind : u.kind = .word) :
    ∃ c, (layout false (u :: ts)).head? = some c ∧
      (u.text = Path.parentSegment ∧ c = '.' ∨ Text.isWordChar c = true) := by
  obtain ⟨c, cs, hraw, hc⟩ := exists_raw_word hkind hfits
  refine ⟨c, ?_, hc⟩
  rw [layout, gap, Bool.false_and, if_neg (by decide), hraw]
  rfl

/-- No word character follows an operand inside a tag. -/
theorem head_layout_operand (hmode : u.kind.mode = .tag) :
    ∃ c, (layout true (u :: ts)).head? = some c ∧ Text.isWordChar c = false := by
  rw [layout, gap, Bool.true_and]
  by_cases hoperand : u.isOperand = true
  · rw [if_pos hoperand]
    exact ⟨' ', rfl, by decide⟩
  · obtain ⟨c, cs, hraw, hc⟩ := exists_raw_symbol hmode (by simpa using hoperand) hfits
    rw [if_neg hoperand, hraw]
    exact ⟨c, rfl, hc⟩

end Next

/-- Text outside tags is all of the text up to the next tag, and no brace of it runs into that
tag. -/
def Seam (t u : Token) : Prop :=
  t.kind = .content → u.kind ≠ .content ∧ t.text.toList.getLast? ≠ some '\x7b'

/-- Two tokens side by side have a seam between them where the first ends. -/
theorem seam_of_before {t u : Token} {rest : List Char} (hfits : u.Fits) (hrest : u.Before rest)
    (h : t.Before (u.raw ++ rest)) : Seam t u := by
  intro hcontent
  simp only [Before, hcontent] at h
  rcases h with hnil | ⟨cs, hbraces, hlast⟩
  · exact absurd (List.append_eq_nil_iff.1 hnil).1 (raw_ne_nil (lexeme_of_fits hfits hrest))
  · exact ⟨ne_content_of_braces hfits hrest hbraces, hlast⟩

/-- Tokens that are taken from a text have seams between them. -/
theorem Takes.seams {mode final : Mode} {ts : List Token} {cs rest : List Char}
    (h : Takes mode ts cs final rest) : ts.IsChain Seam := by
  induction h with
  | nil => exact .nil
  | @cons mode _ t ts _ cs _ hmode _ _ hbefore tail ih =>
      refine List.isChain_cons.2 ⟨fun u hu hcontent => ?_, ih⟩
      have htext : modeAfter mode t.kind = .text := by
        rw [← hmode, hcontent]
        rfl
      rw [htext] at tail
      cases tail with
      | nil => cases hu
      | @cons _ _ v _ _ _ _ _ hskip hfits' hbefore' _ =>
          obtain rfl : v = u := by simpa using hu
          rw [hskip.2 rfl, List.nil_append] at hbefore
          exact seam_of_before hfits' hbefore' hbefore hcontent

/-- Tokens in a text have seams between them. -/
theorem Spells.seams {mode : Mode} {ts : List Token} {cs : List Char} (h : Spells mode ts cs) :
    ts.IsChain Seam :=
  h.takes.seams

/-- A token ends where it does before the tokens behind it when they are written tidily. -/
theorem before_layout {t : Token} {ts : List Token} (hfits : t.Fits)
    (tail : Flows (modeAfter t.kind.mode t.kind) ts) (hseam : ∀ u ∈ ts.head?, Seam t u)
    (hadjoins : ∀ u ∈ ts.head?, Adjoins t u) (hdotted : ∀ u ∈ ts.head?, ¬ Dotted t u) :
    t.Before (layout t.isOperand ts) := by
  rcases t with ⟨kind, text, p⟩
  -- Only these four kinds look at what follows; inside a tag something always does.
  cases kind with
  | content =>
      cases tail with
      | nil => exact .inl rfl
      | @cons _ u ts hmode hfits' _ =>
          obtain ⟨hcontent, hlast⟩ := hseam u rfl rfl
          obtain ⟨ds, hds⟩ := exists_layout_braces ts hfits' hmode hcontent
          exact .inr ⟨ds, hds, hlast⟩
  | openValue =>
      cases tail with
      | @cons _ u ts _ hfits' _ =>
          obtain ⟨c, hhead, hc⟩ := head_layout_word ts hfits' (hadjoins u rfl (.inl rfl))
          show ∀ c ∈ (layout false (u :: ts)).head?, c ∉ marks
          intro c' hc' hmark
          obtain rfl : c = c' := Option.some.inj (hhead.symm.trans hc')
          obtain ⟨hword, hdot⟩ := marks_apart hmark
          rcases hc with ⟨-, hc⟩ | hc
          · exact hdot hc
          · rw [hword] at hc
            cases hc
  | word =>
      cases tail with
      | @cons _ u ts hmode hfits' _ =>
          obtain ⟨c, hhead, hc⟩ := head_layout_operand ts hfits' hmode
          refine .inr fun c' hc' => ?_
          obtain rfl : c = c' := Option.some.inj (hhead.symm.trans hc')
          exact hc
  | separator =>
      cases tail with
      | @cons _ u ts _ hfits' _ =>
          have hword : u.kind = .word := hadjoins u rfl (.inr rfl)
          obtain ⟨c, hhead, hc⟩ := head_layout_word ts hfits' hword
          rcases hfits with rfl | rfl
          · exact .inl rfl
          · refine .inr fun hdot => ?_
            obtain rfl : c = '.' := Option.some.inj (hhead.symm.trans hdot)
            rcases hc with ⟨hparent, -⟩ | hc
            · exact hdotted u rfl ⟨rfl, Prod.ext hword hparent⟩
            · exact absurd hc (by decide)
  | _ => trivial

/-- Tokens with seams between them, and no dot before the two dots of a step to the parent, are read
from their tidy writing. -/
theorem Flows.layout {mode : Mode} {ts : List Token} (h : Flows mode ts)
    (hseams : ts.IsChain Seam) (hadjoins : ts.IsChain Adjoins)
    (hdotted : ts.IsChain fun t u => ¬ Dotted t u) (after : Bool) :
    Spells mode ts (layout after ts) := by
  induction h generalizing after with
  | nil => exact .nil
  | @cons mode t ts hmode hfits tail ih =>
      obtain ⟨hseam, hseams⟩ := List.isChain_cons.1 hseams
      obtain ⟨hadjoin, hadjoins⟩ := List.isChain_cons.1 hadjoins
      obtain ⟨hdot, hdotted⟩ := List.isChain_cons.1 hdotted
      subst hmode
      exact .cons rfl (skips_gap rfl after) hfits (before_layout hfits tail hseam hadjoin hdot)
        (ih hseams hadjoins hdotted _)

/-- Tokens of a text with no dot before the two dots of a step to the parent are read again from
their tidy writing. -/
theorem Spells.layout {mode : Mode} {ts : List Token} {cs : List Char} (h : Spells mode ts cs)
    (hadjoins : ts.IsChain Adjoins) (hdotted : ts.IsChain fun t u => ¬ Dotted t u)
    (after : Bool) : Spells mode ts (layout after ts) :=
  h.flows.layout h.seams hadjoins hdotted after

/-- A dot does not end where it does before the two dots of a step to the parent. -/
theorem not_before_dots {t v : Token} {ts : List Token} (h : Dotted t v) (hv : v ∈ ts.head?) :
    ¬ t.Before (layout t.isOperand ts) := by
  obtain ⟨ts, rfl⟩ := List.head?_eq_some_iff.1 hv
  have hkind : t.kind = .separator := congrArg Prod.fst h.1
  have htext : t.text = "." := congrArg Prod.snd h.1
  have hraw : v.raw = ['.', '.'] := by
    rw [raw_congr (u := ⟨.word, Path.parentSegment, {}⟩) h.2]
    simp [raw, Path.parentSegment]
  simp [Before, hkind, htext, layout, gap, isOperand, hraw]

/-- Tokens that are read again from their tidy writing have no dot before the two dots of a step to
the parent. -/
theorem Spells.not_dotted {mode : Mode} {us ts : List Token} {after : Bool}
    (h : Spells mode us (Templating.layout after ts)) (halike : Alike us ts) :
    ts.IsChain fun t u => ¬ Dotted t u := by
  induction ts generalizing us mode after with
  | nil => exact .nil
  | cons t ts ih =>
      obtain ⟨u, vs, rfl, hkind, htext, hvs⟩ := halike.exists_cons
      generalize hcs : Templating.layout after (t :: ts) = cs at h
      cases h with
      | @cons _ _ _ skipped rest hmode hskip hfits hbefore tail =>
          have hsymbol : u.symbol = t.symbol := Prod.ext hkind htext
          have hraw : t.raw = u.raw := raw_congr hsymbol.symm
          change gap after t ++ (t.raw ++ Templating.layout t.isOperand ts) = _ at hcs
          rw [hkind] at hmode
          -- No token begins with a blank, so what the scan passes over is the gap.
          have hgap := blanks_of_skips (skips_gap hmode after) hmode (hfits.congr hsymbol)
            (Templating.layout t.isOperand ts)
          rw [hcs, blanks_of_skips hskip (by rw [hkind, hmode]) hfits] at hgap
          rw [← hgap, hraw, List.append_right_inj, List.append_right_inj] at hcs
          subst hcs
          refine List.isChain_cons.2 ⟨fun v hv hdotted => ?_, ih tail hvs⟩
          have hoperand : t.isOperand = u.isOperand := by rw [isOperand, isOperand, hkind]
          rw [hoperand] at hbefore
          exact not_before_dots ⟨hsymbol.trans hdotted.1, hdotted.2⟩ hv hbefore

end Templating
