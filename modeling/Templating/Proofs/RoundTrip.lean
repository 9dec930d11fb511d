import Templating.Proofs.Layout

/-!
# Printing and parsing again

A parsed template is printed as its tokens in their tidy writing. Tokens with texts that fit are
determined by the tree they write (`Statements.alike`), so a parse of the printed text gives the
tree again just when the tidy writing falls into the tokens it was made of. The one thing that can
go wrong is a dot before the two dots of a step to the parent (`Node.reparse_print_iff`).
-/

namespace Templating

open Token Scan

/-! ## The tokens of a tree -/

/-- The same characters begin with one token only. -/
theorem symbol_eq_of_append {t u : Token} {cs ds : List Char} (hmode : t.kind.mode = u.kind.mode)
    (ht : t.Fits) (hu : u.Fits) (hcs : t.Before cs) (hds : u.Before ds)
    (h : t.raw ++ cs = u.raw ++ ds) : t.symbol = u.symbol ∧ cs = ds := by
  have hlexeme := lexeme_of_fits ht hcs
  rw [h, hmode, lexeme_of_fits hu hds, Option.some.injEq] at hlexeme
  have hkind : u.kind = t.kind := congrArg Lexeme.kind hlexeme
  have htext : u.text.toList = t.text.toList := congrArg Lexeme.text hlexeme
  have hsymbol : t.symbol = u.symbol := Prod.ext hkind.symm (String.toList_inj.1 htext.symm)
  refine ⟨hsymbol, ?_⟩
  rwa [raw_congr hsymbol, List.append_right_inj] at h

/-- Delimiters of one kind say the same. -/
theorem symbol_eq_of_delimiter {t u : Token} (hkind : t.kind = u.kind) (ht : t.Fits) (hu : u.Fits)
    (h : t.kind.isOpener = true ∨ t.kind = .close) : t.symbol = u.symbol := by
  rcases t with ⟨kind, text, p⟩
  rcases u with ⟨kind', text', q⟩
  cases hkind
  cases kind with
  | openValue | openBlock | openEnd | openInverse | openPartial | close =>
      exact Prod.ext rfl (Eq.trans ht (Eq.symm hu))
  | content | comment | word | separator | literal | eof => simp [TokenKind.isOpener] at h

namespace Grammar

variable {us vs : List Token}

/-- The characters that segments are written with. -/
def written (us : List Token) : List Char :=
  us.flatMap (·.text.toList)

theorem toList_join_text (us : List Token) :
    (String.join (us.map (·.text))).toList = written us := by
  simp [written, List.flatMap_map]

/-- A word ends before a separator. -/
theorem before_written {word separator : Token} {us : List Token} (hword : word.kind = .word)
    (hseparator : separator.kind = .separator) (hfits : separator.Fits) :
    word.Before (written (separator :: us)) := by
  rcases separator with ⟨kind, text, p⟩
  cases hseparator
  simp only [Before, hword]
  refine .inr ?_
  rcases hfits with rfl | rfl
  · intro c hc
    obtain rfl : '/' = c := by simpa [written] using hc
    decide
  · intro c hc
    obtain rfl : '.' = c := by simpa [written] using hc
    decide

theorem before_nil {word : Token} (hword : word.kind = .word) : word.Before [] := by
  simp [Before, hword]

theorem length_separator {t : Token} (hkind : t.kind = .separator) (hfits : t.Fits) :
    t.text.toList.length = 1 := by
  rcases t with ⟨kind, text, p⟩
  cases hkind
  rcases hfits with rfl | rfl
  · simp
  · simp

/-- The first word of two rows of segments that are written alike. -/
theorem word_symbol_eq {t u : Token} {cs ds : List Char} (ht : t.kind = .word)
    (hu : u.kind = .word) (htfits : t.Fits) (hufits : u.Fits) (hcs : t.Before cs)
    (hds : u.Before ds) (h : t.text.toList ++ cs = u.text.toList ++ ds) :
    t.symbol = u.symbol ∧ cs = ds := by
  refine symbol_eq_of_append (by rw [ht, hu]) htfits hufits hcs hds ?_
  simpa [raw, ht, hu] using h

theorem Segments.alike {texts texts' : List String} (h : Segments us texts)
    (h' : Segments vs texts') (hus : ∀ u ∈ us, u.Fits) (hvs : ∀ v ∈ vs, v.Fits)
    (hwritten : written us = written vs) : Alike us vs := by
  induction h generalizing vs texts' with
  | one hword =>
      cases h' with
      | one hword' =>
          obtain ⟨hsymbol, -⟩ := word_symbol_eq hword hword' (hus _ (by simp)) (hvs _ (by simp))
            (before_nil hword) (before_nil hword') hwritten
          exact .cons hsymbol rfl
      | @more _ separator _ _ hword' hseparator' _ =>
          have hfits := hvs separator (by simp)
          obtain ⟨-, hnil⟩ := word_symbol_eq hword hword' (hus _ (by simp)) (hvs _ (by simp))
            (before_nil hword) (before_written hword' hseparator' hfits) hwritten
          have := congrArg List.length hnil
          simp [written, length_separator hseparator' hfits] at this
          omega
  | @more _ separator _ _ hword hseparator _ ih =>
      have hfits := hus separator (by simp)
      cases h' with
      | one hword' =>
          obtain ⟨-, hnil⟩ := word_symbol_eq hword hword' (hus _ (by simp)) (hvs _ (by simp))
            (before_written hword hseparator hfits) (before_nil hword') hwritten
          have := congrArg List.length hnil
          simp [written, length_separator hseparator hfits] at this
      | @more _ separator' _ _ hword' hseparator' rest' =>
          have hfits' := hvs separator' (by simp)
          obtain ⟨hsymbol, hrest⟩ := word_symbol_eq hword hword' (hus _ (by simp))
            (hvs _ (by simp)) (before_written hword hseparator hfits)
            (before_written hword' hseparator' hfits') hwritten
          obtain ⟨hdot, hrest⟩ := List.append_inj hrest
            (by rw [length_separator hseparator hfits, length_separator hseparator' hfits'])
          have hsymbol' : separator.symbol = separator'.symbol :=
            Prod.ext (hseparator.trans hseparator'.symm) (String.toList_inj.1 hdot)
          exact .cons hsymbol (.cons hsymbol' (ih rest' (fun u hu => hus u (by simp [hu]))
            (fun v hv => hvs v (by simp [hv])) hrest))

theorem IsPath.segments {p : Path} (h : IsPath us p) :
    p.written.toList = written us ∧ ∃ texts, Segments us texts := by
  obtain ⟨segments, -, -⟩ := h
  exact ⟨toList_join_text us, _, segments⟩

theorem IsPath.alike {p : Path} (h : IsPath us p) (h' : IsPath vs p) (hus : ∀ u ∈ us, u.Fits)
    (hvs : ∀ v ∈ vs, v.Fits) : Alike us vs := by
  obtain ⟨hwritten, _, segments⟩ := h.segments
  obtain ⟨hwritten', _, segments'⟩ := h'.segments
  exact segments.alike segments' hus hvs (hwritten.symm.trans hwritten')

theorem Params.alike {ns : List Node} (h : Params us ns) (h' : Params vs ns)
    (hus : ∀ u ∈ us, u.Fits) (hvs : ∀ v ∈ vs, v.Fits) : Alike us vs := by
  induction h generalizing vs with
  | nil => cases h'; rfl
  | @literal t ts ns ht _ ih =>
      generalize htext : t.text = text at h'
      cases h' with
      | literal ht' rest' =>
          exact .cons (Prod.ext (ht.trans ht'.symm) htext)
            (ih rest' (fun u hu => hus u (by simp [hu])) (fun v hv => hvs v (by simp [hv])))
  | path first _ ih =>
      cases h' with
      | path first' rest' =>
          obtain ⟨hus, hus'⟩ := List.forall_mem_append.1 hus
          obtain ⟨hvs, hvs'⟩ := List.forall_mem_append.1 hvs
          exact (first.alike first' hus hvs).append (ih rest' hus' hvs')

/-- Tokens that begin and end with a delimiter and have equal insides between. -/
theorem alike_tag {opener opener' finish finish' : Token} (hkind : opener.kind = opener'.kind)
    (hopener : opener.kind.isOpener = true) (hfinish : finish.kind = .close)
    (hfinish' : finish'.kind = .close) (hus : ∀ u ∈ opener :: (us ++ [finish]), u.Fits)
    (hvs : ∀ v ∈ opener' :: (vs ++ [finish']), v.Fits) (h : Alike us vs) :
    Alike (opener :: (us ++ [finish])) (opener' :: (vs ++ [finish'])) := by
  have hfirst := symbol_eq_of_delimiter hkind (hus _ (by simp)) (hvs _ (by simp)) (.inl hopener)
  have hlast := symbol_eq_of_delimiter (hfinish.trans hfinish'.symm) (hus _ (by simp))
    (hvs _ (by simp)) (.inr hfinish)
  exact .cons hfirst (h.append (.cons hlast rfl))

/-- What fits as a tag fits inside it. -/
theorem fits_inside {opener finish : Token} (h : ∀ u ∈ opener :: (us ++ [finish]), u.Fits) :
    ∀ u ∈ us, u.Fits :=
  fun u hu => h u (by simp [hu])

theorem Tag.alike {kind : TokenKind} {p : Path} {params : List Node} (h : Tag kind us p params)
    (h' : Tag kind vs p params) (hkind : kind.isOpener = true) (hus : ∀ u ∈ us, u.Fits)
    (hvs : ∀ v ∈ vs, v.Fits) : Alike us vs := by
  obtain ⟨rfl, path, more, hfinish⟩ := h
  obtain ⟨hopener', path', more', hfinish'⟩ := h'
  obtain ⟨hpath, hmore⟩ := List.forall_mem_append.1 (fits_inside hus)
  obtain ⟨hpath', hmore'⟩ := List.forall_mem_append.1 (fits_inside hvs)
  exact alike_tag hopener'.symm hkind hfinish hfinish' hus hvs
    ((path.alike path' hpath hpath').append (more.alike more' hmore hmore'))

theorem Closing.alike {p : Path} (h : Closing us p) (h' : Closing vs p) (hus : ∀ u ∈ us, u.Fits)
    (hvs : ∀ v ∈ vs, v.Fits) : Alike us vs := by
  obtain ⟨hopener, path, hfinish⟩ := h
  obtain ⟨hopener', path', hfinish'⟩ := h'
  exact alike_tag (hopener.trans hopener'.symm) (by rw [hopener]; rfl) hfinish hfinish' hus hvs
    (path.alike path' (fits_inside hus) (fits_inside hvs))

theorem Inclusion.alike {n : Node} (h : Inclusion us n) (h' : Inclusion vs n)
    (hus : ∀ u ∈ us, u.Fits) (hvs : ∀ v ∈ vs, v.Fits) : Alike us vs := by
  cases h with
  | @plain _ name _ hopener hname hfinish =>
      generalize htext : name.text = text at h'
      cases h' with
      | plain hopener' hname' hfinish' =>
          exact alike_tag (hopener.trans hopener'.symm) (by rw [hopener]; rfl) hfinish hfinish'
            hus hvs (.cons (Prod.ext (hname.trans hname'.symm) htext) (Alike.refl []))
  | @within _ name _ _ _ hopener hname context hfinish =>
      generalize htext : name.text = text at h'
      cases h' with
      | within hopener' hname' context' hfinish' =>
          have hcontext := context.alike context'
            (fun u hu => hus u (by simp [hu])) (fun v hv => hvs v (by simp [hv]))
          exact alike_tag (hopener.trans hopener'.symm) (by rw [hopener]; rfl) hfinish hfinish'
            hus hvs (.cons (Prod.ext (hname.trans hname'.symm) htext) hcontext)

theorem Inclusion.eq_inclusion {n : Node} (h : Inclusion us n) :
    ∃ name context, n = .inclusion name context := by
  cases h with
  | plain => exact ⟨_, _, rfl⟩
  | within => exact ⟨_, _, rfl⟩

/-- Tokens that fit are determined by the program that they write. -/
theorem Statements.alike {ns : List Node} (h : Statements us ns) (h' : Statements vs ns)
    (hus : ∀ u ∈ us, u.Fits) (hvs : ∀ v ∈ vs, v.Fits) : Alike us vs := by
  induction h generalizing vs with
  | nil => cases h'; rfl
  | @content t ts ns ht _ ih =>
      generalize htext : t.text = text at h'
      cases h' with
      | content ht' rest' =>
          exact .cons (Prod.ext (ht.trans ht'.symm) htext)
            (ih rest' (fun u hu => hus u (by simp [hu])) (fun v hv => hvs v (by simp [hv])))
      | inclusion tag' _ => cases tag'
  | @comment t ts ns ht _ ih =>
      generalize htext : t.text = text at h'
      cases h' with
      | comment ht' rest' =>
          exact .cons (Prod.ext (ht.trans ht'.symm) htext)
            (ih rest' (fun u hu => hus u (by simp [hu])) (fun v hv => hvs v (by simp [hv])))
      | inclusion tag' _ => cases tag'
  | insertion tag _ ih =>
      cases h' with
      | insertion tag' rest' =>
          simp only [List.forall_mem_append] at hus hvs
          obtain ⟨htag, hrest⟩ := hus
          obtain ⟨htag', hrest'⟩ := hvs
          exact (tag.alike tag' rfl htag htag').append (ih rest' hrest hrest')
      | inclusion tag' _ => cases tag'
  | inclusion tag _ ih =>
      obtain ⟨name, context, rfl⟩ := tag.eq_inclusion
      cases h' with
      | inclusion tag' rest' =>
          simp only [List.forall_mem_append] at hus hvs
          obtain ⟨htag, hrest⟩ := hus
          obtain ⟨htag', hrest'⟩ := hvs
          exact (tag.alike tag' htag htag').append (ih rest' hrest hrest')
  | block tag _ closing _ _ ihBody ih =>
      cases h' with
      | block tag' primary' closing' _ rest' =>
          simp only [List.forall_mem_append] at hus hvs
          obtain ⟨htag, hbody, hclosing, hrest⟩ := hus
          obtain ⟨htag', hbody', hclosing', hrest'⟩ := hvs
          exact (tag.alike tag' rfl htag htag').append ((ihBody primary' hbody hbody').append
            ((closing.alike closing' hclosing hclosing').append (ih rest' hrest hrest')))
      | inclusion tag' _ => cases tag'
  | @blockInverse _ _ _ _ _ opener finish _ _ _ _ _ _ tag _ bare _ closing _ _ ihBody ihOther ih =>
      cases h' with
      | @blockInverse _ _ _ _ _ opener' finish' _ _ _ _ _ _ tag' primary' bare' other' closing' _
          rest' =>
          simp only [List.forall_mem_append, List.forall_mem_cons] at hus hvs
          obtain ⟨htag, hbody, hopener, hfinish, hother, hclosing, hrest⟩ := hus
          obtain ⟨htag', hbody', hopener', hfinish', hother', hclosing', hrest'⟩ := hvs
          have hmark : Alike [opener, finish] [opener', finish'] :=
            alike_tag (bare.1.trans bare'.1.symm) (by rw [bare.1]; rfl) bare.2 bare'.2
              (by simp [hopener, hfinish]) (by simp [hopener', hfinish']) (Alike.refl [])
          exact (tag.alike tag' rfl htag htag').append ((ihBody primary' hbody hbody').append
            (hmark.append ((ihOther other' hother hother').append
              ((closing.alike closing' hclosing hclosing').append (ih rest' hrest hrest')))))
      | inclusion tag' _ => cases tag'
  | inverted tag _ closing _ _ ihBody ih =>
      cases h' with
      | inverted tag' primary' closing' _ rest' =>
          simp only [List.forall_mem_append] at hus hvs
          obtain ⟨htag, hbody, hclosing, hrest⟩ := hus
          obtain ⟨htag', hbody', hclosing', hrest'⟩ := hvs
          exact (tag.alike tag' rfl htag htag').append ((ihBody primary' hbody hbody').append
            ((closing.alike closing' hclosing hclosing').append (ih rest' hrest hrest')))
      | inclusion tag' _ => cases tag'

end Grammar

/-! ## Parsing what was printed -/

namespace Grammar

theorem Params.foreignIn {us : List Token} {ns : List Node} (h : Params us ns) :
    Node.foreignIn? ns = none := by
  induction h with
  | nil => rfl
  | literal _ _ ih => simpa [Node.foreignIn?, Node.foreign?] using ih
  | path _ _ ih => simpa [Node.foreignIn?, Node.foreign?] using ih

theorem Tag.foreignIn {kind : TokenKind} {us : List Token} {p : Path} {params : List Node}
    (h : Tag kind us p params) : Node.foreignIn? params = none := by
  obtain ⟨-, -, more, -⟩ := h
  exact more.foreignIn

/-- A parsed program has no foreign nodes. -/
theorem Statements.foreignIn {us : List Token} {ns : List Node} (h : Statements us ns) :
    Node.foreignIn? ns = none := by
  induction h with
  | nil => rfl
  | content _ _ ih => simpa [Node.foreignIn?, Node.foreign?] using ih
  | comment _ _ ih => simpa [Node.foreignIn?, Node.foreign?] using ih
  | insertion tag _ ih => simpa [Node.foreignIn?, Node.foreign?, tag.foreignIn] using ih
  | inclusion tag _ ih =>
      cases tag with
      | plain => simpa [Node.foreignIn?, Node.foreign?] using ih
      | within => simpa [Node.foreignIn?, Node.foreign?] using ih
  | block tag _ _ _ _ ihBody ih =>
      simpa [Node.foreignIn?, Node.foreign?, tag.foreignIn, ihBody] using ih
  | blockInverse tag _ _ _ _ _ _ ihBody ihOther ih =>
      simpa [Node.foreignIn?, Node.foreign?, tag.foreignIn, ihBody, ihOther] using ih
  | inverted tag _ _ _ _ ihBody ih =>
      simpa [Node.foreignIn?, Node.foreign?, tag.foreignIn, ihBody] using ih

end Grammar

theorem exists_dotted_iff {ts : List Token} :
    (∃ t u, [t, u] <:+: ts ∧ Dotted t u) ↔ ¬ ts.IsChain fun t u => ¬ Dotted t u := by
  rw [List.isChain_iff_forall_rel_of_append_cons_cons]
  constructor
  · rintro ⟨t, u, ⟨before, after, hts⟩, hdotted⟩ hchain
    exact hchain (show ts = before ++ t :: u :: after by simp [← hts]) hdotted
  · intro hchain
    by_contra hnone
    refine hchain fun t u before after hts hdotted => hnone ⟨t, u, ⟨before, after, ?_⟩, hdotted⟩
    simp [hts]

/-- Places do not count for dotted steps. -/
theorem Token.Alike.not_dotted_iff {us ts : List Token} (h : Alike us ts) :
    (us.IsChain fun t u => ¬ Dotted t u) ↔ ts.IsChain fun t u => ¬ Dotted t u := by
  have hmap : ∀ vs : List Token, (vs.IsChain fun t u => ¬ Dotted t u) ↔
      (vs.map symbol).IsChain fun a b =>
        ¬ (a = (.separator, ".") ∧ b = (.word, Path.parentSegment)) := by
    intro vs
    rw [List.isChain_map]
    rfl
  rw [hmap, hmap, h]

namespace Node

theorem print_of_statements {us : List Token} {ns : List Node} (h : Grammar.Statements us ns)
    (hfits : ∀ u ∈ us, u.Fits) :
    print (.program ns) = .ok (String.ofList (layout false us)) := by
  rw [print, foreign?, h.foreignIn, (h.lays hfits).layout_eq]
  rfl

/-- The end token has no part in a dotted step. -/
theorem exists_dotted_ofTemplate_iff {template : String} {ts : List Token}
    (h : Spells .text ts template.toList) :
    (∃ t u, [t, u] <:+: Token.ofTemplate template ∧ Dotted t u) ↔
      ¬ ts.IsChain fun t u => ¬ Dotted t u := by
  obtain ⟨us, last, hus, heof, halike⟩ := run_of_spells h {}
  have hlast : ∀ t, ¬ Dotted t last := by
    intro t hdotted
    have hword : last.kind = .word := congrArg Prod.fst hdotted.2
    rw [heof] at hword
    cases hword
  rw [exists_dotted_iff, ← halike.not_dotted_iff, Token.ofTemplate, Scan.ofTemplate, hus,
    List.isChain_append]
  simp [hlast]

/-- **A printed template is parsed to the same tree**, just when no dot stood before the two dots of
a step to the parent. Printing a parsed template never fails. -/
theorem ofTemplate_print_iff {template : String} {n : Node} (h : ofTemplate template = .ok n) :
    ∃ text, n.print = .ok text ∧ (ofTemplate text = .ok n ↔
      ¬ ∃ t u, [t, u] <:+: Token.ofTemplate template ∧ Dotted t u) := by
  obtain ⟨ts, ns, rfl, hspells, hns⟩ := ofTemplate_eq_ok_iff.1 h
  refine ⟨_, print_of_statements hns hspells.fits, ?_⟩
  rw [exists_dotted_ofTemplate_iff hspells, not_not, ofTemplate_eq_ok_iff, String.toList_ofList]
  constructor
  -- Tokens that write the same tree are alike, so the printed text fell into the tokens it was
  -- made of.
  · rintro ⟨us, ms, hms, hlayout, hus⟩
    obtain rfl : ns = ms := by simpa using hms
    exact hlayout.not_dotted (hus.alike hns hlayout.fits hspells.fits)
  · intro hdotted
    have hadjoins : ts.IsChain Adjoins := by simpa using hns.adjoins List.IsChain.nil
    exact ⟨ts, ns, rfl, hspells.layout hadjoins hdotted false, hns⟩

/-- A dot before a step to the parent, with a blank between them. The blank is not printed, and the
printed text is no template. -/
theorem print_dotted_step :
    ∃ n text, ofTemplate "\x7b\x7b.. . ..\x7d\x7d" = .ok n ∧ n.print = .ok text ∧
      ¬ ∃ m, ofTemplate text = .ok m := by
  refine ⟨.program [.insertion ⟨[], 2, "....."⟩ []], "\x7b\x7b.....\x7d\x7d",
    by decide +kernel, by decide +kernel, ?_⟩
  have hfails : (ofTemplate "\x7b\x7b.....\x7d\x7d").isOk = false := by decide +kernel
  rintro ⟨m, hm⟩
  rw [hm] at hfails
  cases hfails

/-- A path with blanks around its separators, and a parameter. -/
theorem ofTemplate_print_spaced :
    ofTemplate "\x7b\x7b .. / a . b \x22x\x22 \x7d\x7d" =
        .ok (.program [.insertion ⟨["a", "b"], 1, "../a.b"⟩ [.literal "x"]]) ∧
      ∃ text,
        (Node.program [.insertion ⟨["a", "b"], 1, "../a.b"⟩ [.literal "x"]]).print = .ok text ∧
          (ofTemplate text = .ok (.program [.insertion ⟨["a", "b"], 1, "../a.b"⟩ [.literal "x"]]) ↔
            ¬ ∃ t u, [t, u] <:+: Token.ofTemplate "\x7b\x7b .. / a . b \x22x\x22 \x7d\x7d" ∧
              Dotted t u) :=
  ⟨by decide +kernel, ofTemplate_print_iff (by decide +kernel)⟩

end Node

end Templating
