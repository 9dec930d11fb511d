import Mathlib.Data.List.Basic
import Templating.Proofs.Inlining
import Templating.Proofs.Layout
import Templating.Workspace

/-!
# Templates one after the other

Two templates in a row are a template, unless a brace ends the first and a brace begins the second.
Text on both sides of the seam becomes one token (`Token.join`); all other tokens stay what they
were. The joined template does what its two parts do, one after the other
(`renderTemplate_append`).
-/

namespace Templating

open Token Scan

/-- Tokens in a row, where text outside tags that meets at the seam becomes one token. -/
def Token.join : List Token → List Token → List Token
  | [], us => us
  | [t], [] => [t]
  | [t], u :: us =>
    if t.kind = .content ∧ u.kind = .content then ⟨.content, t.text ++ u.text, t.start⟩ :: us
    else t :: u :: us
  | t :: t' :: ts, us => t :: join (t' :: ts) us

namespace Token

variable {t u : Token} {us xs : List Token}

theorem join_content (ht : t.kind = .content) (hu : u.kind = .content) (us : List Token) :
    join [t] (u :: us) = ⟨.content, t.text ++ u.text, t.start⟩ :: us := by
  rw [join, if_pos ⟨ht, hu⟩]

theorem join_single (h : ∀ u ∈ us.head?, ¬ (t.kind = .content ∧ u.kind = .content)) :
    join [t] us = t :: us := by
  cases us with
  | nil => rfl
  | cons u us => rw [join, if_neg (h u rfl)]

theorem join_cons {ts : List Token} (h : ts ≠ []) : join (t :: ts) us = t :: join ts us := by
  obtain ⟨t', ts, rfl⟩ := List.exists_cons_of_ne_nil h
  rfl

/-- Nothing is joined to a token that is no text. -/
theorem join_append (h : ∀ x ∈ xs.getLast?, x.kind ≠ .content) (ts us : List Token) :
    join (xs ++ ts) us = xs ++ join ts us := by
  induction xs with
  | nil => rfl
  | cons x xs ih =>
      by_cases hxs : xs ++ ts = []
      · obtain ⟨rfl, rfl⟩ := List.append_eq_nil_iff.1 hxs
        rw [List.singleton_append, join_single fun u _ hkind => h x rfl hkind.1]
        rfl
      · rw [List.cons_append, join_cons hxs, ih ?_, List.cons_append]
        intro y hy
        refine h y ?_
        rw [List.getLast?_cons, hy]
        rfl

end Token

/-! ## The seam in the text -/

/-- What is enough for a token to end where it does is still there when more text follows. -/
theorem Token.before_append {t : Token} {rest : List Char} (h : t.Before rest) (hrest : rest ≠ [])
    (ds : List Char) : t.Before (rest ++ ds) := by
  obtain ⟨c, cs, rfl⟩ := List.exists_cons_of_ne_nil hrest
  rcases t with ⟨kind, text, p⟩
  cases kind with
  | content =>
      rcases h with h | ⟨es, hes, hlast⟩
      · exact absurd h hrest
      · exact .inr ⟨es ++ ds, by rw [hes]; rfl, hlast⟩
  | openValue | word | separator => exact h
  | _ => trivial

theorem Spells.ne_nil {mode : Mode} {t : Token} {ts : List Token} {cs : List Char}
    (h : Spells mode (t :: ts) cs) : cs ≠ [] := by
  cases h with
  | cons _ _ hfits hbefore _ =>
      have := raw_ne_nil (lexeme_of_fits hfits hbefore)
      exact fun hnil => this (List.append_eq_nil_iff.1 (List.append_eq_nil_iff.1 hnil).2).1

/-- Two texts outside tags that meet at a seam are one. -/
theorem spells_seam_content {t u : Token} {us : List Token} {rest : List Char}
    (ht : t.kind = .content) (hu : u.kind = .content) (htfits : t.Fits) (hufits : u.Fits)
    (hbefore : u.Before rest) (tail : Spells .text us rest)
    (hseam : ¬ (t.raw.getLast? = some '\x7b' ∧ (u.raw ++ rest).head? = some '\x7b')) :
    Spells .text (⟨.content, t.text ++ u.text, t.start⟩ :: us) (t.raw ++ (u.raw ++ rest)) := by
  rcases t with ⟨kind, text, p⟩
  rcases u with ⟨kind', text', q⟩
  cases ht
  cases hu
  obtain ⟨htne, htlacks⟩ := htfits
  obtain ⟨hune, hulacks⟩ := hufits
  change ¬ (text.toList.getLast? = _ ∧ (text'.toList ++ rest).head? = _) at hseam
  have hjoined : (text ++ text').toList = text.toList ++ text'.toList := String.toList_append
  have hfits : (⟨.content, text ++ text', p⟩ : Token).Fits := by
    simp only [Fits, hjoined]
    refine ⟨by simp [htne], ?_⟩
    rw [beforeTwice_append_of_notFound htlacks, hulacks]
    intro hlast hhead
    exact hseam ⟨hlast, by rw [List.head?_append, hhead]; rfl⟩
  have hends : (⟨.content, text ++ text', p⟩ : Token).Before rest := by
    simp only [Before, hjoined, List.getLast?_append_of_ne_nil _ hune]
    exact hbefore
  have hraw : (⟨.content, text ++ text', p⟩ : Token).raw = text.toList ++ text'.toList := hjoined
  have := Spells.cons_text rfl hfits hends tail
  rwa [hraw, List.append_assoc] at this

/-- The last token of a text and the first of another one. -/
theorem spells_seam {mode : Mode} {t : Token} {us : List Token} {skipped ds : List Char}
    (hmode : t.kind.mode = mode) (hskip : Skips mode skipped) (hfits : t.Fits)
    (hbefore : t.Before []) (hafter : modeAfter mode t.kind = .text) (h : Spells .text us ds)
    (hseam : ¬ (t.raw.getLast? = some '\x7b' ∧ ds.head? = some '\x7b')) :
    Spells mode (Token.join [t] us) (skipped ++ (t.raw ++ ds)) := by
  have hsingle : t.Before ds → Spells mode (t :: us) (skipped ++ (t.raw ++ ds)) :=
    fun hds => .cons hmode hskip hfits hds (hafter ▸ h)
  by_cases hcontent : t.kind = .content
  · have htext : mode = .text := by rw [← hmode, hcontent]; rfl
    subst htext
    cases h with
    | nil => exact hsingle hbefore
    | @cons _ u us skipped' rest hmode' hskip' hfits' hbefore' tail =>
        rw [hskip.2 rfl, hskip'.2 rfl] at *
        by_cases hu : u.kind = .content
        · rw [join_content hcontent hu]
          rw [hu] at tail
          exact spells_seam_content hcontent hu hfits hfits' hbefore' tail hseam
        · rw [join_single (by simp [hu])]
          obtain ⟨cs, hraw⟩ := exists_raw_braces hmode' hu hfits'
          refine hsingle ?_
          rw [hraw] at hseam ⊢
          rcases t with ⟨kind, text, p⟩
          cases hcontent
          exact .inr ⟨cs ++ rest, rfl, fun hlast => hseam ⟨hlast, rfl⟩⟩
  · rw [join_single fun u _ hkind => hcontent hkind.1]
    refine hsingle ?_
    subst hmode
    rcases t with ⟨kind, text, p⟩
    cases kind with
    | content => exact absurd rfl hcontent
    | openValue | word | separator => cases hafter
    | _ => trivial

/-- Texts one after the other are made of the joined tokens. -/
theorem Spells.join {mode : Mode} {ts us : List Token} {cs ds : List Char} (h : Spells mode ts cs)
    (h' : Spells .text us ds)
    (hseam : ¬ (cs.getLast? = some '\x7b' ∧ ds.head? = some '\x7b')) :
    Spells mode (Token.join ts us) (cs ++ ds) := by
  induction h with
  | nil => exact h'
  | @cons mode t ts skipped rest hmode hskip hfits hbefore tail ih =>
      have hraw : t.raw ≠ [] := raw_ne_nil (lexeme_of_fits hfits hbefore)
      rw [List.append_assoc, List.append_assoc]
      cases ts with
      | nil =>
          -- The last token meets the seam; what comes before it does not see the second text.
          generalize hafter : modeAfter mode t.kind = after at tail
          cases tail with
          | nil =>
              rw [List.append_nil, List.getLast?_append_of_ne_nil _ hraw] at hseam
              exact spells_seam hmode hskip hfits hbefore hafter h' hseam
      | cons t' ts =>
          have hrest := tail.ne_nil
          rw [join_cons (by simp)]
          refine .cons hmode hskip hfits (before_append hbefore hrest ds) (ih ?_)
          rwa [← List.append_assoc, List.getLast?_append_of_ne_nil _ hrest] at hseam

/-! ## The seam in the tree -/

/-- Statements that add the same output in every scope and every frame. -/
def Node.SameOutput (ms ns : List Node) : Prop :=
  ∀ (s : Scope) (included : Node → Frame → Run String) (f : Frame),
    output s included ms f = output s included ns f

theorem Node.SameOutput.cons {ms ns : List Node} (h : SameOutput ms ns) (n : Node) :
    SameOutput (n :: ms) (n :: ns) := by
  intro s included f
  rw [output_cons, output_cons, h]

/-- Text in two pieces adds what it adds in one. -/
theorem Node.sameOutput_content (text text' : String) (ns : List Node) :
    SameOutput (.content (text ++ text') :: ns) (.content text :: .content text' :: ns) := by
  intro s included f
  have hcontent : ∀ t, (·.text) <$> visit s included (.content t) f = pure t := fun _ => rfl
  rw [output_cons, output_cons, output_cons, hcontent, hcontent, hcontent]
  simp only [pure_bind, bind_assoc, String.append_assoc]

namespace Grammar

/-- A tag does not end with text. -/
theorem getLast_tag {opener finish : Token} (us : List Token) (h : finish.kind = .close) :
    ∀ x ∈ (opener :: (us ++ [finish])).getLast?, x.kind ≠ .content := by
  intro x hx
  rw [← List.cons_append, List.getLast?_concat] at hx
  obtain rfl : finish = x := Option.some.inj hx
  simp [h]

theorem Tag.getLast {kind : TokenKind} {us : List Token} {p : Path} {params : List Node}
    (h : Tag kind us p params) : ∀ x ∈ us.getLast?, x.kind ≠ .content := by
  obtain ⟨-, -, -, hfinish⟩ := h
  exact getLast_tag _ hfinish

theorem Inclusion.getLast {us : List Token} {n : Node} (h : Inclusion us n) :
    ∀ x ∈ us.getLast?, x.kind ≠ .content := by
  cases h with
  | plain _ _ hfinish => exact getLast_tag [_] hfinish
  | within _ _ _ hfinish => exact getLast_tag (_ :: _) hfinish

/-- What ends with a closing tag does not end with text. -/
theorem Closing.getLast {us : List Token} {q : Path} (h : Closing us q) (xs : List Token) :
    ∀ x ∈ (xs ++ us).getLast?, x.kind ≠ .content := by
  obtain ⟨-, -, hfinish⟩ := h
  rw [List.getLast?_append_of_ne_nil _ (by simp)]
  exact getLast_tag _ hfinish

/-- Joined tokens write a program with the output of the two programs in a row. -/
theorem Statements.join {ts us : List Token} {ms ns : List Node} (h : Statements ts ms)
    (h' : Statements us ns) :
    ∃ ks, Statements (Token.join ts us) ks ∧ Node.SameOutput ks (ms ++ ns) := by
  induction h with
  | nil => exact ⟨ns, h', fun _ _ _ => rfl⟩
  | @content t ts _ ht rest ih =>
      by_cases hts : ts = []
      · subst hts
        cases rest.unique .nil
        by_cases hus : ∃ u vs, us = u :: vs ∧ u.kind = .content
        · obtain ⟨u, vs, rfl, hu⟩ := hus
          obtain ⟨ns, rfl, hns⟩ := h'.of_content hu
          rw [join_content ht hu]
          exact ⟨_, .content rfl hns, Node.sameOutput_content _ _ _⟩
        · have hhead : ∀ u ∈ us.head?, ¬ (t.kind = .content ∧ u.kind = .content) := by
            intro u hu hkind
            obtain ⟨vs, rfl⟩ := List.head?_eq_some_iff.1 hu
            exact hus ⟨u, vs, rfl, hkind.2⟩
          rw [join_single hhead]
          exact ⟨_, .content ht h', fun _ _ _ => rfl⟩
      · obtain ⟨ks, hks, hsame⟩ := ih
        rw [join_cons hts]
        exact ⟨_, .content ht hks, hsame.cons _⟩
  | @comment t ts _ ht _ ih =>
      obtain ⟨ks, hks, hsame⟩ := ih
      have hlast : ∀ x ∈ [t].getLast?, x.kind ≠ .content := by simp [ht]
      have hjoin := join_append hlast ts us
      rw [List.singleton_append] at hjoin
      rw [hjoin]
      exact ⟨_, .comment ht hks, hsame.cons _⟩
  | insertion tag _ ih =>
      obtain ⟨ks, hks, hsame⟩ := ih
      rw [join_append tag.getLast]
      exact ⟨_, .insertion tag hks, hsame.cons _⟩
  | inclusion tag _ ih =>
      obtain ⟨ks, hks, hsame⟩ := ih
      rw [join_append tag.getLast]
      exact ⟨_, .inclusion tag hks, hsame.cons _⟩
  | @block vs bs ws ts _ _ _ _ _ tag primary closing same _ _ ih =>
      obtain ⟨ks, hks, hsame⟩ := ih
      have hjoin := join_append (closing.getLast (vs ++ bs)) ts us
      simp only [List.append_assoc] at hjoin
      rw [hjoin]
      exact ⟨_, .block tag primary closing same hks, hsame.cons _⟩
  | @blockInverse vs bs is ws ts opener finish _ _ _ _ _ _ tag primary bare other closing same _ _ _
      ih =>
      obtain ⟨ks, hks, hsame⟩ := ih
      have hjoin := join_append (closing.getLast (vs ++ (bs ++ opener :: finish :: is))) ts us
      simp only [List.append_assoc, List.cons_append] at hjoin
      rw [hjoin]
      exact ⟨_, .blockInverse tag primary bare other closing same hks, hsame.cons _⟩
  | @inverted vs bs ws ts _ _ _ _ _ tag primary closing same _ _ ih =>
      obtain ⟨ks, hks, hsame⟩ := ih
      have hjoin := join_append (closing.getLast (vs ++ bs)) ts us
      simp only [List.append_assoc] at hjoin
      rw [hjoin]
      exact ⟨_, .inverted tag primary closing same hks, hsame.cons _⟩

end Grammar

/-! ## Two templates in a row -/

/-- A brace on each side of the seam between two texts. -/
def BracesMeet (a b : String) : Prop :=
  a.toList.getLast? = some '\x7b' ∧ b.toList.head? = some '\x7b'

/-- Two templates in a row are a template with the output of the first and then that of the
second. -/
theorem Node.ofTemplate_append {a b : String} {m n : Node} (ha : ofTemplate a = .ok m)
    (hb : ofTemplate b = .ok n) (hseam : ¬ BracesMeet a b) :
    ∃ k, ofTemplate (a ++ b) = .ok k ∧ ∀ (s : Scope) (f : Frame),
      k.render s f = (do
        let first ← m.render s f
        let rest ← n.render s f
        pure (first ++ rest)) := by
  obtain ⟨ts, ms, rfl, hts, hms⟩ := ofTemplate_eq_ok_iff.1 ha
  obtain ⟨us, ns, rfl, hus, hns⟩ := ofTemplate_eq_ok_iff.1 hb
  obtain ⟨ks, hks, hsame⟩ := hms.join hns
  have hspells := hts.join hus hseam
  rw [← String.toList_append] at hspells
  refine ⟨.program ks, ofTemplate_eq_ok_iff.2 ⟨_, ks, rfl, hspells, hks⟩, fun s f => ?_⟩
  obtain ⟨limit, hlimit⟩ : ∃ limit, nestingLimit = limit + 1 := ⟨4999, rfl⟩
  simp only [render, hlimit, renderWithin_program]
  rw [hsame, output_append]

/-- **Rendering two templates in a row** renders the first and then the second: the outputs are
joined, and the first failure is that of the whole. -/
theorem renderTemplate_append {a b : String} (ha : ∃ m, Node.ofTemplate a = .ok m)
    (hb : ∃ n, Node.ofTemplate b = .ok n) (hseam : ¬ BracesMeet a b) :
    (∃ k, Node.ofTemplate (a ++ b) = .ok k) ∧
      ∀ (r : Registry) (data : Value) (helpers : Table HelperEntry) (partials : Table Value),
        renderTemplate (a ++ b) r data helpers partials = (do
          let first ← renderTemplate a r data helpers partials
          let rest ← renderTemplate b r data helpers partials
          pure (first ++ rest)) := by
  obtain ⟨m, hm⟩ := ha
  obtain ⟨n, hn⟩ := hb
  obtain ⟨k, hk, hrender⟩ := Node.ofTemplate_append hm hn hseam
  refine ⟨⟨k, hk⟩, fun r data helpers partials => ?_⟩
  unfold renderTemplate
  rw [parseTemplate_eq_pure hm, parseTemplate_eq_pure hn, parseTemplate_eq_pure hk]
  simp only [pure_bind]
  exact hrender _ _

/-- Text meets text, and a brace ends the first. -/
theorem renderTemplate_append_text :
    (∃ m, Node.ofTemplate "\x7b\x7bx\x7d\x7d a\x7b" = .ok m) ∧
      (∃ n, Node.ofTemplate "b \x7b\x7b> p\x7d\x7d" = .ok n) ∧
        ¬ BracesMeet "\x7b\x7bx\x7d\x7d a\x7b" "b \x7b\x7b> p\x7d\x7d" ∧
          (∃ k, Node.ofTemplate ("\x7b\x7bx\x7d\x7d a\x7b" ++ "b \x7b\x7b> p\x7d\x7d") = .ok k) ∧
            ∀ (r : Registry) (data : Value) (helpers : Table HelperEntry) (partials : Table Value),
              renderTemplate ("\x7b\x7bx\x7d\x7d a\x7b" ++ "b \x7b\x7b> p\x7d\x7d") r data helpers
                  partials = (do
                let first ← renderTemplate "\x7b\x7bx\x7d\x7d a\x7b" r data helpers partials
                let rest ← renderTemplate "b \x7b\x7b> p\x7d\x7d" r data helpers partials
                pure (first ++ rest)) := by
  have ha : ∃ m, Node.ofTemplate "\x7b\x7bx\x7d\x7d a\x7b" = .ok m :=
    ⟨.program [.insertion ⟨["x"], 0, "x"⟩ [], .content " a\x7b"], by decide +kernel⟩
  have hb : ∃ n, Node.ofTemplate "b \x7b\x7b> p\x7d\x7d" = .ok n :=
    ⟨.program [.content "b ", .inclusion "p" none], by decide +kernel⟩
  have hseam : ¬ BracesMeet "\x7b\x7bx\x7d\x7d a\x7b" "b \x7b\x7b> p\x7d\x7d" := by
    simp [BracesMeet]
  exact ⟨ha, hb, hseam, renderTemplate_append ha hb hseam⟩

end Templating
