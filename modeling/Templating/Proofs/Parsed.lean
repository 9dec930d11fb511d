import Templating.Proofs.Mentions
import Templating.Proofs.Printable

/-!
# What every parsed tree satisfies

A tree that comes from a template meets all the conditions on trees that their text stands for,
except that its paths may be dotted in any way. The scan gives what holds of single tokens and of
neighbours (`Token.Fits`, `Seam`); it is carried into the tree along the derivation, with the tokens
that come behind each part (`Grammar.Source`). That the path of a closing tag is the path of the
block, and not only written with the same characters, is because the characters of a path fall into
segments in one way (`Grammar.IsPath.eq_of_written`).
-/

namespace Templating

open Token Scan

/-- Whether a path is written by some of the tokens `ts`. Wherever it is written, it is a plain name
just when that is a single segment, and neither the step to the parent nor `this`. -/
def Path.WrittenIn (ts : List Token) (p : Path) : Prop :=
  (∃ us, us <:+: ts ∧ Grammar.IsPath us p) ∧
    ∀ us, us <:+: ts → Grammar.IsPath us p →
      (p.isSimple = true ↔
        ∃ word, us = [word] ∧ word.text ≠ parentSegment ∧ word.text ≠ thisSegment)

namespace Grammar

variable {us vs after : List Token} {p q : Path}

/-! ## Paths by their characters -/

/-- Tokens write one path at most. -/
theorem IsPath.unique (h : IsPath us p) (h' : IsPath us q) : p = q := by
  obtain ⟨-, texts, hsegments⟩ := h.segments
  obtain ⟨first, more, rfl, -, hfirst, hmore⟩ := exists_spread hsegments
  rw [← Path.ofSegments_eq_ok_iff hfirst hmore] at h h'
  rw [h] at h'
  exact Except.ok.inj h'

/-- The characters of a path determine its segments, and with them its names and its depth. -/
theorem IsPath.eq_of_written (h : IsPath us p) (h' : IsPath vs q) (hus : ∀ u ∈ us, u.Fits)
    (hvs : ∀ v ∈ vs, v.Fits) (hwritten : q.written = p.written) : q = p := by
  obtain ⟨hus', texts, hsegments⟩ := h.segments
  obtain ⟨hvs', texts', hsegments'⟩ := h'.segments
  have hcs : written vs = written us := by rw [← hvs', ← hus', hwritten]
  have halike : Alike vs us := hsegments'.alike hsegments hvs hus hcs
  exact h'.unique (h.congr halike)

/-! ## From tokens to trees -/

/-- The first token of statements, which is text if they begin with text. -/
theorem Statements.exists_first {n : Node} {ns : List Node} (h : Statements us (n :: ns)) :
    ∃ u ts, us = u :: ts ∧ ∀ text, n = .content text → u.kind = .content := by
  cases h with
  | content ht _ => exact ⟨_, _, rfl, fun _ _ => ht⟩
  | comment _ _ => exact ⟨_, _, rfl, nofun⟩
  | insertion tag _ | block tag _ _ _ _ | blockInverse tag _ _ _ _ _ _ | inverted tag _ _ _ _ =>
      obtain ⟨opener, ts, rfl, -⟩ := tag.head
      exact ⟨_, _, List.cons_append, nofun⟩
  | inclusion tag _ =>
      cases tag with
      | plain _ _ _ | within _ _ _ _ => exact ⟨_, _, List.cons_append, nofun⟩

/-- Tokens that were scanned, with the ones behind them, in which every path satisfies `P`. -/
structure Source (P : Path → Prop) (us after : List Token) : Prop where
  paths : ∀ vs p, vs <:+: us → IsPath vs p → P p
  fits : ∀ t ∈ us, t.Fits
  seams : (us ++ after).IsChain Seam

namespace Source

variable {P : Path → Prop}

/-- What comes first has the rest behind it too. -/
theorem left (h : Source P (us ++ vs) after) : Source P us (vs ++ after) where
  paths ws p hws := h.paths ws p (hws.trans (List.prefix_append us vs).isInfix)
  fits t ht := h.fits t (List.mem_append_left vs ht)
  seams := by rw [← List.append_assoc]; exact h.seams

theorem right (h : Source P (us ++ vs) after) : Source P vs after where
  paths ws p hws := h.paths ws p (hws.trans (List.suffix_append us vs).isInfix)
  fits t ht := h.fits t (List.mem_append_right us ht)
  seams := by
    have := h.seams
    rw [List.append_assoc] at this
    exact this.right_of_append

theorem tail {t : Token} (h : Source P (t :: us) after) : Source P us after := by
  have hcons : Source P ([t] ++ us) after := h
  exact hcons.right

end Source

variable {P : Path → Prop} {params : List Node}

theorem Params.printable (h : Params us params) (hsource : Source P us after) :
    ∀ n ∈ params, Node.PrintableOperand P n := by
  induction h with
  | nil => simp
  | @literal t ts ns ht _ ih =>
      have hfits := hsource.fits t (by simp)
      exact List.forall_mem_cons.2 ⟨.literal ((fits_literal_iff ht).1 hfits), ih hsource.tail⟩
  | path first _ ih =>
      have hpath := hsource.left.paths _ _ (List.infix_refl _) first
      exact List.forall_mem_cons.2 ⟨.path hpath, ih hsource.right⟩

/-- The path and the parameters of a tag. -/
theorem Tag.printable {kind : TokenKind} (h : Tag kind us p params) (hsource : Source P us after) :
    P p ∧ ∀ n ∈ params, Node.PrintableOperand P n := by
  obtain ⟨-, path, more, -⟩ := h
  have hinside := hsource.tail.left
  exact ⟨hinside.left.paths _ _ (List.infix_refl _) path, more.printable hinside.right⟩

/-- The closing tag of a block has its path, and not only a path with the same characters. -/
theorem Closing.eq_of_written {kind : TokenKind} (h : Closing vs q) (tag : Tag kind us p params)
    (hus : ∀ u ∈ us, u.Fits) (hvs : ∀ v ∈ vs, v.Fits) (same : q.written = p.written) : q = p := by
  obtain ⟨-, path, -, -⟩ := tag
  obtain ⟨-, path', -⟩ := h
  exact path.eq_of_written path' (fun u hu => hus u (by simp [hu]))
    (fun v hv => hvs v (by simp [hv])) same

/-- What can be said of a text from the tokens behind it. -/
theorem Statements.seam {t : Token} {ns : List Node} (h : Statements us ns)
    (ht : t.kind = .content) (hseams : (t :: (us ++ after)).IsChain Seam) :
    (t.text.toList.getLast? = some '\x7b' → after = [] ∧ ns = []) ∧
      ∀ text, ns.head? ≠ some (.content text) := by
  rw [List.isChain_cons] at hseams
  cases ns with
  | nil =>
      cases h
      refine ⟨fun hbrace => ⟨?_, rfl⟩, by simp⟩
      cases after with
      | nil => rfl
      | cons v after => exact absurd hbrace (hseams.1 v rfl ht).2
  | cons n ns =>
      obtain ⟨u, ts, rfl, hcontent⟩ := h.exists_first
      obtain ⟨hnext, hlast⟩ := hseams.1 u rfl ht
      refine ⟨fun hbrace => absurd hbrace hlast, fun text htext => ?_⟩
      exact hnext (hcontent text (by simpa using htext))

theorem Closing.append_ne_nil (h : Closing us q) (vs after : List Token) :
    us ++ vs ++ after ≠ [] := by
  obtain ⟨-, -, -⟩ := h
  simp

/-- The inclusion of a partial names it by a single segment. -/
theorem Inclusion.printable {last : Bool} {n : Node} {ns : List Node} (h : Inclusion us n)
    (hsource : Source P us after) (rest : Node.Printable P last ns) :
    Node.Printable P last (n :: ns) := by
  cases h with
  | @plain _ name _ _ hname _ =>
      have hfits := hsource.fits name (by simp)
      simp only [Fits, hname] at hfits
      show Node.Printable P last (.inclusion name.text (Option.map .path none) :: ns)
      exact .inclusion hfits (by simp) rest
  | @within _ name _ _ p _ hname context _ =>
      have hfits := hsource.fits name (by simp)
      simp only [Fits, hname] at hfits
      have hpath := hsource.tail.tail.left.paths _ _ (List.infix_refl _) context
      show Node.Printable P last (.inclusion name.text (Option.map .path (some p)) :: ns)
      exact .inclusion hfits (by simpa using hpath) rest

/-- A block without an inverse part, inverted or not, is closed by its own path. -/
theorem Tag.printable_block {kind : TokenKind} {vs ws ts : List Token} {body ns : List Node}
    {last inverted : Bool} (tag : Tag kind us p params) (closing : Closing ws q)
    (same : q.written = p.written) (hsource : Source P (us ++ (vs ++ (ws ++ ts))) after)
    (hbody : Node.Printable P false body) (rest : Node.Printable P last ns) :
    Node.Printable P last
      (.block p params (.program body) none (some (.path q)) inverted :: ns) := by
  obtain ⟨hpath, hparams⟩ := tag.printable hsource.left
  have hclosing := hsource.right.right.left
  obtain rfl := closing.eq_of_written tag hsource.left.fits hclosing.fits same
  show Node.Printable P last (.block q params (.program body) (Option.map .program none)
    (some (.path q)) inverted :: ns)
  exact .block hpath hparams hbody (by simp) (by simp) rest

/-- **Parsed statements are printable.** The induction follows the derivation, and `after` is what
comes behind the statements in the template. -/
theorem Statements.printable {ns : List Node} (h : Statements us ns) (hsource : Source P us after)
    {last : Bool} (hlast : after = [] → last = true) : Node.Printable P last ns := by
  induction h generalizing after last with
  | nil => exact .nil
  | @content t ts ns ht rest ih =>
      have hfits := hsource.fits t (by simp)
      simp only [Fits, ht] at hfits
      obtain ⟨hend, hnext⟩ := rest.seam ht hsource.seams
      exact .content hfits.1 (beforeTwice_eq_self_iff.1 hfits.2)
        (fun hbrace => (hend hbrace).imp_left hlast) hnext (ih hsource.tail hlast)
  | @comment t ts ns ht _ ih =>
      have hfits := hsource.fits t (by simp)
      simp only [Fits, ht] at hfits
      exact .comment (beforeTwice_eq_self_iff.1 hfits.1) hfits.2 (ih hsource.tail hlast)
  | insertion tag _ ih =>
      obtain ⟨hpath, hparams⟩ := tag.printable hsource.left
      exact .insertion hpath hparams (ih hsource.right hlast)
  | inclusion tag _ ih => exact tag.printable hsource.left (ih hsource.right hlast)
  | block tag _ closing same _ ihBody ih =>
      have hbody : Node.Printable P false _ :=
        ihBody hsource.right.left fun hnil => absurd hnil (closing.append_ne_nil _ _)
      exact tag.printable_block closing same hsource hbody (ih hsource.right.right.right hlast)
  | inverted tag _ closing same _ ihBody ih =>
      have hbody : Node.Printable P false _ :=
        ihBody hsource.right.left fun hnil => absurd hnil (closing.append_ne_nil _ _)
      exact tag.printable_block closing same hsource hbody (ih hsource.right.right.right hlast)
  | @blockInverse us vs is ws ts opener finish p q params body inverse ns tag _ bare _ closing same
      _ ihBody ihOther ih =>
      -- Behind the body stands the tag of the inverse part, behind that part the closing tag.
      obtain ⟨hpath, hparams⟩ := tag.printable hsource.left
      have hrest := hsource.right.right.tail.tail
      obtain rfl := closing.eq_of_written tag hsource.left.fits hrest.right.left.fits same
      have hbody : Node.Printable P false body := ihBody hsource.right.left (by simp)
      have hother : Node.Printable P false inverse :=
        ihOther hrest.left fun hnil => absurd hnil (closing.append_ne_nil _ _)
      show Node.Printable P last (.block q params (.program body)
        (Option.map .program (some inverse)) (some (.path q)) false :: ns)
      exact .block hpath hparams hbody (by simpa using hother) (by simp)
        (ih hrest.right.right hlast)

end Grammar

namespace Node

/-- **Every parsed tree is printable, up to dotted paths.** Blocks are closed by their own path,
inverted ones have no inverse part, texts and comments do not run into what stands around them, the
backslashes of strings are balanced, and each path is a plain name if it is written so. -/
theorem printable_of_ofTemplate {template : String} {n : Node} (h : ofTemplate template = .ok n) :
    ∃ ns, n = .program ns ∧ Printable (Path.WrittenIn (Token.ofTemplate template)) true ns := by
  obtain ⟨ts, last, ns, hts, rfl, hspells, hns⟩ := exists_tokens_of_ofTemplate h
  have hwithin : ts <:+: Token.ofTemplate template := hts ▸ (List.prefix_append ts [last]).isInfix
  have hsource : Grammar.Source (Path.WrittenIn (Token.ofTemplate template)) ts [] :=
    { paths := fun us p hus hp =>
        ⟨⟨us, hus.trans hwithin, hp⟩, fun _ _ hwritten => hwritten.isSimple_iff⟩
      fits := hspells.fits
      seams := by rw [List.append_nil]; exact hspells.seams }
  exact ⟨ns, rfl, hns.printable hsource fun _ => rfl⟩

/-- A list with an inverse part, an inverted section, and a text that ends in a brace because it is
the last. -/
def listTemplate : String :=
  "\x7b\x7b#each ../list \x22\\\\\\\x22\x22\x7d\x7dx\x7b\x7b^\x7d\x7d\x7b\x7b! none \x7d\x7d" ++
    "\x7b\x7b/each\x7d\x7d\x7b\x7b^ on \x7d\x7d\x7b\x7b> p this\x7d\x7d\x7b\x7b/on\x7d\x7d\x7b"

/-- The statements of the list. -/
def listStatements : List Node :=
  [.block ⟨["each"], 0, "each"⟩ [.path ⟨["list"], 1, "../list"⟩, .literal "\\\\\x22"]
      (.program [.content "x"]) (some (.program [.comment " none "]))
      (some (.path ⟨["each"], 0, "each"⟩)) false,
    .block ⟨["on"], 0, "on"⟩ [] (.program [.inclusion "p" (some (.path ⟨[], 0, "this"⟩))]) none
      (some (.path ⟨["on"], 0, "on"⟩)) true,
    .content "\x7b"]

theorem printable_of_ofTemplate_list :
    ofTemplate listTemplate = .ok (.program listStatements) ∧
      ∃ ns, Node.program listStatements = .program ns ∧
        Printable (Path.WrittenIn (Token.ofTemplate listTemplate)) true ns := by
  have hlist : ofTemplate listTemplate = .ok (.program listStatements) := by decide +kernel
  exact ⟨hlist, printable_of_ofTemplate hlist⟩

end Node

end Templating
