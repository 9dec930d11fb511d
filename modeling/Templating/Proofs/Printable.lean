import Templating.Proofs.Literal
import Templating.Proofs.RoundTrip

/-!
# Trees that their text stands for

A tree need not come from a template, and the text of such a tree may fall into other pieces than
those it was made of: two texts side by side are one, a brace at the end of a text opens a tag, a
comment may hold its own end. `Node.Printable` names one condition for each way in which pieces can
fuse. The text of a program that meets them all is parsed to that program.

Every printable program is written by tokens that keep apart (`Node.exists_tokens_of_printable`).
The printed text is their tidy writing, and it falls into these tokens again (`Flows.layout`).
-/

namespace Templating

open Token Scan

/-! ## Conditions on trees -/

namespace Path

/-- Whether a text can be a segment: the two dots or a word. -/
def IsSegment (text : String) : Prop :=
  text = parentSegment ∨ text.toList ≠ [] ∧ ∀ c ∈ text.toList, Text.isWordChar c

instance (text : String) : Decidable (IsSegment text) :=
  decidable_of_iff
    (text = parentSegment ∨ text.toList ≠ [] ∧ text.toList.all Text.isWordChar = true)
    (by simp [IsSegment])

/-- The tokens of a separator and the segment behind it. -/
def stepTokens (step : String × String) : Token × Token :=
  (⟨.separator, step.1, {}⟩, ⟨.word, step.2, {}⟩)

/-- Whether a path is what the parser makes of segments with slashes and dots between them, and no
dot stands before a step to the parent. -/
def IsSpelled (p : Path) : Prop :=
  ∃ (first : String) (more : List (String × String)), IsSegment first ∧
    (∀ step ∈ more, IsSegment step.2 ∧ (step.1 = "/" ∨ step.1 = "." ∧ step.2 ≠ parentSegment)) ∧
    ofSegments ⟨.word, first, {}⟩ (more.map stepTokens) = .ok p

end Path

namespace Node

/-- Expressions that their text stands for: paths that satisfy `P`, and strings with balanced
backslashes. -/
inductive PrintableOperand (P : Path → Prop) : Node → Prop where
  | path {p : Path} (hpath : P p) : PrintableOperand P (.path p)
  | literal {value : String} (hvalue : Text.BalancedBackslashes value.toList) :
      PrintableOperand P (.literal value)

/-- Statements that their text stands for, with paths that satisfy `P`. `last` says that nothing
comes after them in the template. -/
inductive Printable (P : Path → Prop) : Bool → List Node → Prop where
  | nil {last : Bool} : Printable P last []
  /-- A text is not empty, does not open a tag, not even together with what follows, and is not
  followed by another text. -/
  | content {last : Bool} {text : String} {ns : List Node} (hne : text.toList ≠ [])
      (hbraces : ¬ ['\x7b', '\x7b'] <:+: text.toList)
      (hend : text.toList.getLast? = some '\x7b' → last = true ∧ ns = [])
      (hnext : ∀ text', ns.head? ≠ some (.content text')) (rest : Printable P last ns) :
      Printable P last (.content text :: ns)
  /-- A comment does not hold its end. -/
  | comment {last : Bool} {text : String} {ns : List Node}
      (hbraces : ¬ ['\x7d', '\x7d'] <:+: text.toList)
      (hend : text.toList.getLast? ≠ some '\x7d') (rest : Printable P last ns) :
      Printable P last (.comment text :: ns)
  | insertion {last : Bool} {p : Path} {params ns : List Node} (hpath : P p)
      (hparams : ∀ n ∈ params, PrintableOperand P n) (rest : Printable P last ns) :
      Printable P last (.insertion p params :: ns)
  /-- A block is closed by its own path, and an inverted one has no inverse part. -/
  | block {last inverted : Bool} {p : Path} {params body ns : List Node}
      {inverse : Option (List Node)} (hpath : P p) (hparams : ∀ n ∈ params, PrintableOperand P n)
      (primary : Printable P false body) (other : ∀ is ∈ inverse, Printable P false is)
      (hinverted : inverted = true → inverse = none) (rest : Printable P last ns) :
      Printable P last (.block p params (.program body) (inverse.map .program) (some (.path p))
        inverted :: ns)
  /-- The name of a partial is a single segment. -/
  | inclusion {last : Bool} {name : String} {context : Option Path} {ns : List Node}
      (hname : Path.IsSegment name) (hcontext : ∀ p ∈ context, P p)
      (rest : Printable P last ns) :
      Printable P last (.inclusion name (context.map .path) :: ns)

end Node

/-! ## Tokens that keep apart -/

/-- Tokens that are read again when they are written tidily, as far as this depends on their
neighbours in the row. -/
structure Ready (mode : Mode) (ts : List Token) : Prop where
  flows : Flows mode ts
  seams : ts.IsChain Seam
  steps : ts.IsChain fun t u => ¬ Dotted t u

/-- The tokens `us` can stand before all that can stand in the mode `mode'`. -/
def Leads (mode : Mode) (us : List Token) (mode' : Mode) : Prop :=
  ∀ ts, Ready mode' ts → Ready mode (us ++ ts)

theorem Ready.nil : Ready .text [] := ⟨.nil, .nil, .nil⟩

theorem Ready.cons {mode : Mode} {t : Token} {ts : List Token} (hmode : t.kind.mode = mode)
    (hfits : t.Fits) (hseam : ∀ u ∈ ts.head?, Seam t u) (hdotted : ∀ u ∈ ts.head?, ¬ Dotted t u)
    (h : Ready (modeAfter mode t.kind) ts) : Ready mode (t :: ts) where
  flows := .cons hmode hfits h.flows
  seams := List.isChain_cons.2 ⟨hseam, h.seams⟩
  steps := List.isChain_cons.2 ⟨hdotted, h.steps⟩

namespace Leads

variable {a b c : Mode} {us vs : List Token}

theorem nil : Leads a [] a := fun _ h => h

theorem append (h : Leads a us b) (h' : Leads b vs c) : Leads a (us ++ vs) c := by
  intro ts hts
  rw [List.append_assoc]
  exact h _ (h' ts hts)

/-- Only texts and separators look at the token behind them. -/
theorem one {t : Token} (hmode : t.kind.mode = a) (hfits : t.Fits) (hcontent : t.kind ≠ .content)
    (hseparator : t.kind ≠ .separator) : Leads a [t] (modeAfter a t.kind) := by
  intro ts hts
  refine .cons hmode hfits (fun u _ hkind => absurd hkind hcontent) (fun u _ hdotted => ?_) hts
  exact hseparator (congrArg Prod.fst hdotted.1)

end Leads

namespace Grammar

/-- There are tokens for all delimiters. -/
theorem exists_delimiter (kind : TokenKind) (h : kind.isOpener = true ∨ kind = .close) :
    ∃ t : Token, t.kind = kind ∧ t.Fits := by
  cases kind with
  | openValue => exact ⟨⟨.openValue, "\x7b\x7b", {}⟩, rfl, rfl⟩
  | openBlock => exact ⟨⟨.openBlock, "\x7b\x7b#", {}⟩, rfl, rfl⟩
  | openEnd => exact ⟨⟨.openEnd, "\x7b\x7b/", {}⟩, rfl, rfl⟩
  | openInverse => exact ⟨⟨.openInverse, "\x7b\x7b^", {}⟩, rfl, rfl⟩
  | openPartial => exact ⟨⟨.openPartial, "\x7b\x7b>", {}⟩, rfl, rfl⟩
  | close => exact ⟨⟨.close, "\x7d\x7d", {}⟩, rfl, rfl⟩
  | content | comment | word | separator | literal | eof => simp [TokenKind.isOpener] at h

theorem leads_opener {t : Token} (h : t.kind.isOpener = true) (hfits : t.Fits) :
    Leads .text [t] .tag := by
  have hkind : t.kind.mode = .text ∧ t.kind ≠ .content ∧ t.kind ≠ .separator := by
    cases hkind : t.kind with
    | openValue | openBlock | openEnd | openInverse | openPartial => simp [TokenKind.mode]
    | _ => simp [hkind, TokenKind.isOpener] at h
  simpa [modeAfter, h] using Leads.one hkind.1 hfits hkind.2.1 hkind.2.2

theorem leads_close {t : Token} (h : t.kind = .close) (hfits : t.Fits) :
    Leads .tag [t] .text := by
  have hmode : t.kind.mode = .tag := by
    rw [h]
    rfl
  simpa [modeAfter, h, TokenKind.isOpener] using
    Leads.one hmode hfits (by simp [h]) (by simp [h])

/-- The delimiters of a tag keep apart from what is inside, whatever the tag. -/
theorem exists_tag (kind : TokenKind) (h : kind.isOpener = true) :
    ∃ opener finish : Token, opener.kind = kind ∧ finish.kind = .close ∧
      ∀ us, Leads .tag us .tag → Leads .text (opener :: (us ++ [finish])) .text := by
  obtain ⟨opener, rfl, hopener⟩ := exists_delimiter kind (.inl h)
  obtain ⟨finish, hfinish, hfits⟩ := exists_delimiter .close (.inr rfl)
  refine ⟨opener, finish, rfl, hfinish, fun us hus => ?_⟩
  exact (leads_opener h hopener).append (hus.append (leads_close hfinish hfits))

theorem leads_word {name : String} (h : Path.IsSegment name) :
    Leads .tag [⟨.word, name, {}⟩] .tag :=
  .one rfl h (by simp) (by simp)

/-- A separator and the segment behind it. -/
theorem leads_step {separator segment : String} (h : Path.IsSegment segment)
    (hseparator : separator = "/" ∨ separator = "." ∧ segment ≠ Path.parentSegment) :
    Leads .tag [⟨.separator, separator, {}⟩, ⟨.word, segment, {}⟩] .tag := by
  intro ts hts
  refine .cons rfl (hseparator.imp_right And.left) (by simp [Seam]) ?_ (leads_word h ts hts)
  intro u hu hdotted
  obtain rfl : ⟨.word, segment, {}⟩ = u := by simpa using hu
  have hdot : separator = "." := congrArg Prod.snd hdotted.1
  have hparent : segment = Path.parentSegment := congrArg Prod.snd hdotted.2
  rcases hseparator with hslash | ⟨-, hname⟩
  · rw [hslash] at hdot
    exact absurd hdot (by decide)
  · exact hname hparent

theorem exists_path {p : Path} (h : p.IsSpelled) : ∃ us, IsPath us p ∧ Leads .tag us .tag := by
  obtain ⟨first, more, hfirst, hmore, hp⟩ := h
  have hsegments : AreSegments (more.map Path.stepTokens) := by
    intro s hs
    obtain ⟨step, -, rfl⟩ := List.mem_map.1 hs
    exact ⟨rfl, rfl⟩
  refine ⟨_, (Path.ofSegments_eq_ok_iff rfl hsegments).1 hp, (leads_word hfirst).append ?_⟩
  clear hp hsegments
  induction more with
  | nil => exact .nil
  | cons step more ih =>
      obtain ⟨hstep, hmore⟩ := List.forall_mem_cons.1 hmore
      exact (leads_step hstep.1 hstep.2).append (ih hmore)

theorem exists_params {params : List Node}
    (h : ∀ n ∈ params, Node.PrintableOperand Path.IsSpelled n) :
    ∃ us, Params us params ∧ Leads .tag us .tag := by
  induction params with
  | nil => exact ⟨[], .nil, .nil⟩
  | cons n params ih =>
      obtain ⟨hn, hparams⟩ := List.forall_mem_cons.1 h
      obtain ⟨us, hus, hleads⟩ := ih hparams
      cases hn with
      | path hpath =>
          obtain ⟨vs, hvs, hleads'⟩ := exists_path hpath
          exact ⟨vs ++ us, .path hvs hus, hleads'.append hleads⟩
      | @literal value hvalue =>
          have hfits : (⟨.literal, value, {}⟩ : Token).Fits := (fits_literal_iff rfl).2 hvalue
          have hliteral : Leads .tag [⟨.literal, value, {}⟩] .tag :=
            .one rfl hfits (by simp) (by simp)
          exact ⟨⟨.literal, value, {}⟩ :: us, .literal rfl hus, hliteral.append hleads⟩

/-- The tag of an insertion, or the one that opens a block. -/
theorem exists_head {p : Path} {params : List Node} (kind : TokenKind)
    (hkind : kind.isOpener = true) (hpath : p.IsSpelled)
    (hparams : ∀ n ∈ params, Node.PrintableOperand Path.IsSpelled n) :
    ∃ us, Tag kind us p params ∧ Leads .text us .text := by
  obtain ⟨opener, finish, hopener, hfinish, htag⟩ := exists_tag kind hkind
  obtain ⟨us, hus, hleads⟩ := exists_path hpath
  obtain ⟨vs, hvs, hleads'⟩ := exists_params hparams
  exact ⟨_, .intro hopener hus hvs hfinish, htag _ (hleads.append hleads')⟩

theorem exists_closing {p : Path} (hpath : p.IsSpelled) :
    ∃ us, Closing us p ∧ Leads .text us .text := by
  obtain ⟨opener, finish, hopener, hfinish, htag⟩ := exists_tag .openEnd rfl
  obtain ⟨us, hus, hleads⟩ := exists_path hpath
  exact ⟨_, .intro hopener hus hfinish, htag _ hleads⟩

theorem exists_bare : ∃ opener finish, BareInverse opener finish ∧
    Leads .text [opener, finish] .text := by
  obtain ⟨opener, finish, hopener, hfinish, htag⟩ := exists_tag .openInverse rfl
  exact ⟨opener, finish, ⟨hopener, hfinish⟩, htag [] .nil⟩

theorem exists_inclusion {name : String} {context : Option Path} (hname : Path.IsSegment name)
    (hcontext : ∀ p ∈ context, p.IsSpelled) :
    ∃ us, Inclusion us (.inclusion name (context.map .path)) ∧ Leads .text us .text := by
  obtain ⟨opener, finish, hopener, hfinish, htag⟩ := exists_tag .openPartial rfl
  have hword := leads_word hname
  cases context with
  | none =>
      exact ⟨[opener, ⟨.word, name, {}⟩, finish], .plain hopener rfl hfinish, htag _ hword⟩
  | some p =>
      obtain ⟨us, hus, hleads⟩ := exists_path (hcontext p rfl)
      exact ⟨opener :: ⟨.word, name, {}⟩ :: (us ++ [finish]), .within hopener rfl hus hfinish,
        htag _ (hword.append hleads)⟩

end Grammar

namespace Node

/-- What can stand behind the statements of a program: no text, and nothing behind the last ones of
a template. -/
def Follows (last : Bool) (ts : List Token) : Prop :=
  (∀ t ∈ ts.head?, t.kind ≠ .content) ∧ (last = true → ts = [])

theorem follows_closing {us : List Token} {p : Path} (h : Grammar.Closing us p) (ts : List Token) :
    Follows false (us ++ ts) := by
  obtain ⟨hopener, -, -⟩ := h
  simp [Follows, hopener]

theorem follows_bare {opener finish : Token} (h : Grammar.BareInverse opener finish)
    (ts : List Token) : Follows false (opener :: finish :: ts) := by
  simp [Follows, h.1]

/-- What comes after a text of a printable program leaves it whole. -/
theorem ready_content {last : Bool} {text : String} {ns : List Node} {us ts : List Token}
    (hend : text.toList.getLast? = some '\x7b' → last = true ∧ ns = [])
    (hnext : ∀ text', ns.head? ≠ some (.content text')) (hus : Grammar.Statements us ns)
    (hfollows : Follows last ts) : ∀ u ∈ (us ++ ts).head?, Seam ⟨.content, text, {}⟩ u := by
  intro u hu _
  have hkind : u.kind ≠ .content := by
    cases us with
    | nil => exact hfollows.1 u hu
    | cons v us =>
        obtain rfl : v = u := by simpa using hu
        intro hkind
        obtain ⟨ns, rfl, -⟩ := hus.of_content hkind
        exact hnext v.text rfl
  refine ⟨hkind, fun hbrace => ?_⟩
  obtain ⟨hlast, rfl⟩ := hend hbrace
  cases hus with
  | nil => simp [hfollows.2 hlast] at hu

/-- Printable statements are written by tokens that can stand before all that may come after the
statements. -/
theorem exists_tokens_of_printable {last : Bool} {ns : List Node}
    (h : Printable Path.IsSpelled last ns) :
    ∃ us, Grammar.Statements us ns ∧
      ∀ ts, Follows last ts → Ready .text ts → Ready .text (us ++ ts) := by
  induction h with
  | nil => exact ⟨[], .nil, fun ts _ hts => hts⟩
  | @content last text ns hne hbraces hend hnext _ ih =>
      obtain ⟨us, hus, hready⟩ := ih
      have hfits : (⟨.content, text, {}⟩ : Token).Fits :=
        ⟨hne, beforeTwice_eq_self_iff.2 hbraces⟩
      refine ⟨⟨.content, text, {}⟩ :: us, .content rfl hus, fun ts hfollows hts => ?_⟩
      exact .cons rfl hfits (ready_content hend hnext hus hfollows) (by simp [Dotted, symbol])
        (hready ts hfollows hts)
  | @comment last text ns hbraces hend _ ih =>
      obtain ⟨us, hus, hready⟩ := ih
      have hfits : (⟨.comment, text, {}⟩ : Token).Fits :=
        ⟨beforeTwice_eq_self_iff.2 hbraces, hend⟩
      have hleads : Leads .text [⟨.comment, text, {}⟩] .text :=
        .one rfl hfits (by simp) (by simp)
      refine ⟨⟨.comment, text, {}⟩ :: us, .comment rfl hus, fun ts hfollows hts => ?_⟩
      exact hleads _ (hready ts hfollows hts)
  | insertion hpath hparams _ ih =>
      obtain ⟨us, hus, hready⟩ := ih
      obtain ⟨vs, hvs, hleads⟩ := Grammar.exists_head .openValue rfl hpath hparams
      refine ⟨vs ++ us, .insertion hvs hus, fun ts hfollows hts => ?_⟩
      rw [List.append_assoc]
      exact hleads _ (hready ts hfollows hts)
  | @block last inverted p params body ns inverse hpath hparams _ _ hinverted _ ihBody ihOther ih =>
      obtain ⟨us, hus, hready⟩ := ih
      obtain ⟨bs, hbs, hbody⟩ := ihBody
      obtain ⟨cs, hcs, hclosing⟩ := Grammar.exists_closing hpath
      -- Behind a body stands a tag, whatever comes after the block.
      have hend : ∀ ts, Follows last ts → Ready .text ts → Ready .text (cs ++ (us ++ ts)) :=
        fun ts hfollows hts => hclosing _ (hready ts hfollows hts)
      cases inverse with
      | none =>
          obtain ⟨vs, hvs, hleads⟩ := Grammar.exists_head
            (if inverted then .openInverse else .openBlock) (by cases inverted <;> rfl) hpath
            hparams
          refine ⟨vs ++ (bs ++ (cs ++ us)), ?_, fun ts hfollows hts => ?_⟩
          · cases inverted with
            | true => exact .inverted hvs hbs hcs rfl hus
            | false => exact .block hvs hbs hcs rfl hus
          · have := hleads _ (hbody _ (follows_closing hcs _) (hend ts hfollows hts))
            simpa using this
      | some is =>
          obtain rfl : inverted = false := by simpa using hinverted
          obtain ⟨vs, hvs, hleads⟩ := Grammar.exists_head .openBlock rfl hpath hparams
          obtain ⟨opener, finish, hbare, hmark⟩ := Grammar.exists_bare
          obtain ⟨os, hos, hother⟩ := ihOther is rfl
          refine ⟨vs ++ (bs ++ (opener :: finish :: (os ++ (cs ++ us)))),
            .blockInverse hvs hbs hbare hos hcs rfl hus, fun ts hfollows hts => ?_⟩
          have hinverse := hmark _ (hother _ (follows_closing hcs _) (hend ts hfollows hts))
          have := hleads _ (hbody _ (follows_bare hbare _) hinverse)
          simpa using this
  | inclusion hname hcontext _ ih =>
      obtain ⟨us, hus, hready⟩ := ih
      obtain ⟨vs, hvs, hleads⟩ := Grammar.exists_inclusion hname hcontext
      refine ⟨vs ++ us, .inclusion hvs hus, fun ts hfollows hts => ?_⟩
      rw [List.append_assoc]
      exact hleads _ (hready ts hfollows hts)

/-- **A printable program is parsed from its text.** -/
theorem ofTemplate_print_of_printable {ns : List Node} (h : Printable Path.IsSpelled true ns) :
    ∃ text, (program ns).print = .ok text ∧ ofTemplate text = .ok (program ns) := by
  obtain ⟨us, hus, hready⟩ := exists_tokens_of_printable h
  have hall : Ready .text us := by
    simpa using hready [] (by simp [Follows]) .nil
  have hadjoins : us.IsChain Adjoins := by simpa using hus.adjoins List.IsChain.nil
  refine ⟨_, print_of_statements hus hall.flows.fits, ofTemplate_eq_ok_iff.2 ⟨us, ns, rfl, ?_, hus⟩⟩
  rw [String.toList_ofList]
  exact hall.flows.layout hall.seams hadjoins hall.steps false

/-- A block with an inverse part, a quote behind balanced backslashes, and a text that may end in a
brace because it is the last. -/
theorem ofTemplate_print_letter :
    let each : Path := ⟨["each"], 0, "each"⟩
    let ns := [.content "Dear",
      .block each [.path ⟨["a", "b"], 1, "../a.b"⟩, .literal "\\\\\x22"]
        (.program [.comment "none"]) (some (.program [.inclusion ".." none])) (some (.path each))
        false,
      .content "\x7b"]
    Printable Path.IsSpelled true ns ∧
      ∃ text, (program ns).print = .ok text ∧ ofTemplate text = .ok (program ns) := by
  intro each ns
  have heach : each.IsSpelled := ⟨"each", [], by decide +kernel, by simp, rfl⟩
  have hpath : Path.IsSpelled ⟨["a", "b"], 1, "../a.b"⟩ := by
    refine ⟨"..", [("/", "a"), (".", "b")], .inl rfl, ?_, rfl⟩
    refine List.forall_mem_cons.2 ⟨⟨by decide +kernel, .inl rfl⟩, ?_⟩
    exact List.forall_mem_singleton.2 ⟨by decide +kernel, .inr ⟨rfl, by decide⟩⟩
  have hvalue : Text.BalancedBackslashes "\\\\\x22".toList :=
    (literalBody_escape_iff [] _).1 (by decide)
  have hbody : Printable Path.IsSpelled false [.comment "none"] :=
    .comment (by decide) (by decide) .nil
  have hinverse : Printable Path.IsSpelled false [.inclusion ".." (Option.map .path none)] :=
    .inclusion (by decide) (by simp) .nil
  have hend : Printable Path.IsSpelled true [.content "\x7b"] :=
    .content (by decide) (by decide) (by simp) (by simp) .nil
  have hblock : Printable Path.IsSpelled true [.block each
      [.path ⟨["a", "b"], 1, "../a.b"⟩, .literal "\\\\\x22"] (.program [.comment "none"])
      (Option.map .program (some [.inclusion ".." none])) (some (.path each)) false,
      .content "\x7b"] :=
    .block heach (by simpa using ⟨.path hpath, .literal hvalue⟩) hbody (by simpa using hinverse)
      (by simp) hend
  have hns : Printable Path.IsSpelled true ns :=
    .content (by decide) (by decide) (by decide) (by simp) hblock
  exact ⟨hns, ofTemplate_print_of_printable hns⟩

end Node

end Templating
