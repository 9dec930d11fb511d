import Templating.Proofs.Parsing

/-!
# The nesting of tags

Where every single tag is well formed, all that can be wrong with a template is how its tags are
nested. A stack of the blocks that are still open decides that in one scan from left to right
(`Nesting.step`), and the parser, which keeps the open blocks in its recursion, finds the same
faults at the same tokens (`Node.ofTokens_nesting`).
-/

namespace Templating

open Grammar

namespace Nesting

/-- What a tag, or a piece of text, does to the nesting of a template. -/
inductive Mark where
  /-- Text, a comment, an insertion or an inclusion: nothing. -/
  | plain
  /-- A tag that opens a block, or an inverted section, with its path as it is written. -/
  | opening (opener : Token) (written : String) (inverted : Bool)
  /-- The tag before an inverse part. -/
  | bare (opener : Token)
  | closing (opener : Token) (written : String)
deriving DecidableEq, Repr

/-- A block that is open. It is `primary` as long as an inverse part may begin in it. -/
structure Open where
  opener : Token
  written : String
  primary : Bool
deriving DecidableEq, Repr

/-- Goes on by one mark, with the innermost open block on top of the stack. -/
def step : List Open → Mark → Except GrammarError (List Open)
  | stack, .plain => .ok stack
  | stack, .opening opener written inverted => .ok (⟨opener, written, !inverted⟩ :: stack)
  | [], .bare opener => .error ⟨.inverseOutsideBlock, some opener⟩
  | top :: stack, .bare opener =>
    if top.primary then .ok ({ top with primary := false } :: stack)
    else .error ⟨.inverseOutsideBlock, some opener⟩
  | [], .closing opener _ => .error ⟨.closingWithoutBlock, some opener⟩
  | top :: stack, .closing opener written =>
    if written = top.written then .ok stack
    else .error ⟨.mismatchedClosing top.written written, some opener⟩

/-- Goes through marks from left to right, up to the first that is at fault. -/
def run (stack : List Open) (marks : List Mark) : Except GrammarError (List Open) :=
  marks.foldlM step stack

/-- What is wrong at the end of a template: the innermost block that is still open. -/
def finish : List Open → Except GrammarError Unit
  | [] => .ok ()
  | top :: _ => .error ⟨.unclosedBlock top.written, some top.opener⟩

/-- Goes through marks to the end of a template. -/
def scan (stack : List Open) (marks : List Mark) : Except GrammarError Unit :=
  run stack marks >>= finish

theorem scan_cons (stack : List Open) (m : Mark) (ms : List Mark) :
    scan stack (m :: ms) = step stack m >>= fun stack => scan stack ms := by
  rw [scan, run, List.foldlM_cons]
  cases step stack m with
  | error e => rfl
  | ok stack => rfl

/-- Tokens in which every tag is well formed by itself, and the marks that its tags are. -/
inductive Marks : List Token → List Mark → Prop where
  | nil : Marks [] []
  | text {t : Token} {ts : List Token} {ms : List Mark}
      (ht : t.kind = .content ∨ t.kind = .comment) (rest : Marks ts ms) :
      Marks (t :: ts) (.plain :: ms)
  | insertion {opener : Token} {us ts : List Token} {p : Path} {params : List Node}
      {ms : List Mark} (tag : Tag .openValue (opener :: us) p params) (rest : Marks ts ms) :
      Marks (opener :: (us ++ ts)) (.plain :: ms)
  | inclusion {opener : Token} {us ts : List Token} {n : Node} {ms : List Mark}
      (tag : Inclusion (opener :: us) n) (rest : Marks ts ms) :
      Marks (opener :: (us ++ ts)) (.plain :: ms)
  | block {opener : Token} {us ts : List Token} {p : Path} {params : List Node}
      {ms : List Mark} (tag : Tag .openBlock (opener :: us) p params) (rest : Marks ts ms) :
      Marks (opener :: (us ++ ts)) (.opening opener p.written false :: ms)
  | inverted {opener : Token} {us ts : List Token} {p : Path} {params : List Node}
      {ms : List Mark} (tag : Tag .openInverse (opener :: us) p params) (rest : Marks ts ms) :
      Marks (opener :: (us ++ ts)) (.opening opener p.written true :: ms)
  | bare {opener finish : Token} {ts : List Token} {ms : List Mark}
      (tag : BareInverse opener finish) (rest : Marks ts ms) :
      Marks (opener :: finish :: ts) (.bare opener :: ms)
  | closing {opener : Token} {us ts : List Token} {q : Path} {ms : List Mark}
      (tag : Closing (opener :: us) q) (rest : Marks ts ms) :
      Marks (opener :: (us ++ ts)) (.closing opener q.written :: ms)

theorem kind_of_tag {kind : TokenKind} {opener : Token} {us : List Token} {p : Path}
    {params : List Node} (h : Tag kind (opener :: us) p params) : opener.kind = kind := by
  obtain ⟨hopener, -, -, -⟩ := h
  exact hopener

theorem kind_of_inclusion {opener : Token} {us : List Token} {n : Node}
    (h : Inclusion (opener :: us) n) : opener.kind = .openPartial := by
  cases h with
  | plain hopener _ _ | within hopener _ _ _ => exact hopener

theorem kind_of_closing {opener : Token} {us : List Token} {q : Path}
    (h : Closing (opener :: us) q) : opener.kind = .openEnd := by
  obtain ⟨hopener, -, -⟩ := h
  exact hopener

/-- The token after the opening delimiter of a tag is a word. -/
theorem kind_after_opener {kind : TokenKind} {opener next : Token} {us ts vs : List Token}
    {p : Path} {params : List Node} (h : Tag kind (opener :: us) p params)
    (hnext : us ++ ts = next :: vs) : next.kind = .word := by
  obtain ⟨-, path, -, -⟩ := h
  obtain ⟨word, ws, rfl, hword⟩ := path.exists_word
  rw [List.cons_append, List.cons_append, List.cons_append, List.cons.injEq] at hnext
  rw [← hnext.1]
  exact hword

/-- Where a closing tag begins, it is there as a whole. -/
theorem Marks.of_openEnd {t : Token} {ts : List Token} {ms : List Mark} (h : Marks (t :: ts) ms)
    (ht : t.kind = .openEnd) :
    ∃ us left q ms', ts = us ++ left ∧ Closing (t :: us) q ∧ Marks left ms' ∧
      ms = .closing t q.written :: ms' := by
  cases h with
  | text hkind _ => simp [ht] at hkind
  | insertion tag _ | block tag _ | inverted tag _ =>
      have hkind := kind_of_tag tag
      rw [ht] at hkind
      cases hkind
  | inclusion tag _ =>
      have hkind := kind_of_inclusion tag
      rw [ht] at hkind
      cases hkind
  | bare tag _ =>
      have hkind := tag.1
      rw [ht] at hkind
      cases hkind
  | closing tag rest => exact ⟨_, _, _, _, rfl, tag, rest, rfl⟩

/-- Where the tag before an inverse part stands, no inverted section begins. -/
theorem Marks.of_bareInverse {opener finish : Token} {ts : List Token} {ms : List Mark}
    (h : Marks (opener :: finish :: ts) ms) (hbare : BareInverse opener finish) :
    ∃ ms', Marks ts ms' ∧ ms = .bare opener :: ms' := by
  obtain ⟨hopener, hfinish⟩ := hbare
  generalize hxs : opener :: finish :: ts = xs at h
  cases h with
  | nil => cases hxs
  | text hkind _ =>
      obtain ⟨rfl, -⟩ := List.cons.inj hxs
      simp [hopener] at hkind
  | insertion tag _ | block tag _ =>
      obtain ⟨rfl, -⟩ := List.cons.inj hxs
      have hkind := kind_of_tag tag
      rw [hopener] at hkind
      cases hkind
  | inverted tag _ =>
      obtain ⟨rfl, hnext⟩ := List.cons.inj hxs
      have hkind := kind_after_opener tag hnext.symm
      rw [hfinish] at hkind
      cases hkind
  | inclusion tag _ =>
      obtain ⟨rfl, -⟩ := List.cons.inj hxs
      have hkind := kind_of_inclusion tag
      rw [hopener] at hkind
      cases hkind
  | bare tag rest =>
      obtain ⟨rfl, hnext⟩ := List.cons.inj hxs
      obtain ⟨rfl, rfl⟩ := List.cons.inj hnext
      exact ⟨_, rest, rfl⟩
  | closing tag _ =>
      obtain ⟨rfl, -⟩ := List.cons.inj hxs
      have hkind := kind_of_closing tag
      rw [hopener] at hkind
      cases hkind

/-- Whether an inverse part may begin: just when the innermost open block is primary. -/
def allows : List Open → Bool
  | [] => false
  | top :: _ => top.primary

end Nesting

namespace Node.Parser

open Nesting

variable {stop : Token} {inBody : Bool} {n : Nat} {ts rest : List Token} {ms : List Mark}

/-- What parsing statements says of the marks before it: its error is what the scan finds, on every
stack that the place allows, or the scan goes on with the marks of the tokens that are left. -/
def Agrees (inBody : Bool) (ms : List Mark) (x : Except GrammarError (Taken (List Node) n)) :
    Prop :=
  match x with
  | .error e => ∀ stack, allows stack = inBody → scan stack ms = .error e
  | .ok t => ∃ ms', Marks t.rest ms' ∧ Stops inBody t.rest ∧
      ∀ stack, allows stack = inBody → scan stack ms = scan stack ms'

/-- Among statements of fewer than `n` tokens the parser finds what the scan finds. -/
def AgreesBelow (stop : Token) (n : Nat) : Prop :=
  ∀ (inBody : Bool) (ts : List Token) (ms : List Mark), ts.length < n → Marks ts ms →
    Agrees inBody ms (statements stop inBody ts)

theorem AgreesBelow.mono {m : Nat} (h : AgreesBelow stop n) (hle : m ≤ n) : AgreesBelow stop m :=
  fun _ _ _ hlt => h _ _ _ (Nat.lt_of_lt_of_le hlt hle)

/-- A part that is parsed in blocks of its own, `push` on the stack, and what comes after it. -/
theorem agrees_bind {m : Nat} {inner : Bool} (push : List Open → List Open) {ms₁ : List Mark}
    {x : Except GrammarError (Taken (List Node) m)}
    {f : Taken (List Node) m → Except GrammarError (Taken (List Node) n)}
    (hpush : ∀ stack, allows stack = inBody →
      allows (push stack) = inner ∧ scan stack ms = scan (push stack) ms₁)
    (hx : Agrees inner ms₁ x)
    (hf : ∀ t ms', Marks t.rest ms' → Stops inner t.rest →
      (∀ stack, allows stack = inBody → scan stack ms = scan (push stack) ms') →
        Agrees inBody ms (f t)) :
    Agrees inBody ms (x >>= f) := by
  cases x with
  | error e =>
      intro stack hstack
      obtain ⟨hinner, hscan⟩ := hpush stack hstack
      exact hscan.trans (hx _ hinner)
  | ok t =>
      obtain ⟨ms', hrest, hstops, hscan⟩ := hx
      refine hf t ms' hrest hstops fun stack hstack => ?_
      obtain ⟨hinner, hpushed⟩ := hpush stack hstack
      exact hpushed.trans (hscan _ hinner)

/-- The same statements with one more before them. -/
theorem agrees_map {m : Nat} {ms₁ : List Mark} {x : Except GrammarError (Taken (List Node) m)}
    {f : List Node → List Node} {h : ∀ t : Taken (List Node) m, t.rest.length < n}
    (hms : ∀ stack, allows stack = inBody → scan stack ms = scan stack ms₁)
    (hx : Agrees inBody ms₁ x) :
    Agrees inBody ms (x >>= fun t => .ok (⟨f t.value, t.rest, h t⟩ : Taken (List Node) n)) :=
  agrees_bind id (fun stack hstack => ⟨hstack, hms stack hstack⟩) hx
    fun _ ms' hrest hstops hscan => ⟨ms', hrest, hstops, hscan⟩

theorem agrees_of_yields {α : Type} {m : Nat} {x : Except GrammarError (Taken α m)} {a : α}
    {f : Taken α m → Except GrammarError (Taken (List Node) n)} (hx : Yields x a rest)
    (hf : ∀ h, Agrees inBody ms (f ⟨a, rest, h⟩)) : Agrees inBody ms (x >>= f) := by
  obtain ⟨h, rfl⟩ := hx
  exact hf h

theorem closing_mismatch {opener t : Token} {opened q : Path} {us : List Token}
    (h : Closing (t :: us) q) (hne : q.written ≠ opened.written) :
    closing stop opener opened (t :: (us ++ rest)) =
      .error ⟨.mismatchedClosing opened.written q.written, some t⟩ := by
  obtain @⟨_, finish, us, _, hopener, path, hfinish⟩ := h
  have hends : EndsPath (finish :: rest) := endsPath_cons (by simp [hfinish])
  obtain ⟨hshorter, hpath⟩ := @yields_path stop _ _ _ path hends
  rw [List.append_assoc, List.singleton_append, closing, if_pos hopener, hpath]
  exact if_neg hne

/-- The closing tag of a block, and what comes after the block. -/
theorem agrees_closing {opener : Token} {opened : Path} {primary : Bool} {ms₁ : List Mark}
    (mk : Path → Node) {bound : ∀ (closed : Taken Path ts.length)
      (more : Taken (List Node) (closed.rest.length + 1)), more.rest.length < n}
    (hts : Marks ts ms₁) (hstops : Stops false ts)
    (hscan : ∀ stack, allows stack = inBody →
      scan stack ms = scan (⟨opener, opened.written, primary⟩ :: stack) ms₁)
    (ih : AgreesBelow stop ts.length) :
    Agrees inBody ms (do
      let closed ← closing stop opener opened ts
      let more ← statements stop inBody closed.rest
      .ok (⟨mk closed.value :: more.value, more.rest, bound closed more⟩ :
        Taken (List Node) n)) := by
  cases hstops with
  | atEnd =>
      cases hts
      exact hscan
  | atInverse _ hbody => cases hbody
  | @atClosing t _ ht =>
      obtain ⟨us, left, q, ms', rfl, tag, hleft, rfl⟩ := hts.of_openEnd ht
      by_cases hsame : q.written = opened.written
      · refine agrees_of_yields (yields_closing tag hsame) fun hshorter => ?_
        refine agrees_map (fun stack hstack => ?_) (ih _ left ms' hshorter hleft)
        rw [hscan stack hstack, scan_cons, step, if_pos hsame]
        rfl
      · rw [closing_mismatch tag hsame]
        intro stack hstack
        rw [hscan stack hstack, scan_cons, step, if_neg hsame]
        rfl

/-- After the primary body of a block comes its inverse part or not. -/
theorem afterInverse_of_stops (h : Stops true ts) :
    (afterInverse? ts = none ∧ Stops false ts) ∨
      ∃ opener finish left, ts = opener :: finish :: left ∧ BareInverse opener finish := by
  cases h with
  | atEnd => exact .inl ⟨rfl, .atEnd⟩
  | @atClosing t us ht =>
      refine .inl ⟨?_, .atClosing ht⟩
      cases us with
      | nil => rfl
      | cons u us => simp [afterInverse?, ht]
  | atInverse bare _ => exact .inr ⟨_, _, _, rfl, bare⟩

theorem scan_opening {stack : List Open} {opener : Token} {written : String} {inverted : Bool} :
    scan stack (.opening opener written inverted :: ms) =
      scan (⟨opener, written, !inverted⟩ :: stack) ms :=
  scan_cons _ _ _

/-- An inverse part, or the body of an inverted section, with the last parts of its block. -/
theorem agrees_inverse {opener : Token} {opened : Path} {ms₁ : List Mark}
    (mk : List Node → Path → Node) {bound : ∀ (inverse : Taken (List Node) (ts.length + 1))
      (closed : Taken Path inverse.rest.length)
      (more : Taken (List Node) (closed.rest.length + 1)), more.rest.length < n}
    (hts : Marks ts ms₁)
    (hscan : ∀ stack, allows stack = inBody →
      scan stack ms = scan (⟨opener, opened.written, false⟩ :: stack) ms₁)
    (ih : AgreesBelow stop (ts.length + 1)) :
    Agrees inBody ms (do
      let inverse ← statements stop false ts
      let closed ← closing stop opener opened inverse.rest
      let more ← statements stop inBody closed.rest
      .ok (⟨mk inverse.value closed.value :: more.value, more.rest, bound inverse closed more⟩ :
        Taken (List Node) n)) := by
  refine agrees_bind (fun stack => ⟨opener, opened.written, false⟩ :: stack)
    (fun stack hstack => ⟨rfl, hscan stack hstack⟩) (ih _ ts _ (Nat.lt_succ_self _) hts) ?_
  intro inverse ms' hleft hstops hscan
  exact agrees_closing (mk inverse.value) hleft hstops hscan
    (ih.mono (Nat.le_of_lt inverse.shorter))

/-- A block: after its primary body comes its inverse part or its closing tag. -/
theorem agrees_block {opener : Token} {us : List Token} {p : Path} {params : List Node}
    (tag : Tag .openBlock (opener :: us) p params) (hts : Marks ts ms)
    (ih : AgreesBelow stop (ts.length + 1)) :
    Agrees inBody (.opening opener p.written false :: ms)
      (statements stop inBody (opener :: (us ++ ts))) := by
  obtain ⟨_, _, hus, hopener, -, hhead⟩ := @yields_head stop _ _ _ _ tag
  obtain ⟨rfl, rfl⟩ := List.cons.inj hus
  rw [statements]
  simp only [hopener]
  refine agrees_of_yields (hhead ts) fun _ => ?_
  refine agrees_bind (fun stack => ⟨opener, p.written, true⟩ :: stack)
    (fun _ _ => ⟨rfl, scan_opening⟩) (ih _ ts _ (Nat.lt_succ_self _) hts) ?_
  intro body ms' hleft hstops hscan
  rcases afterInverse_of_stops hstops with ⟨hnone, hclosing⟩ | ⟨bare, finish, left, hbare, tag'⟩
  · rw [hnone]
    exact agrees_closing
      (fun q => .block p params (.program body.value) none (some (.path q)) false) hleft hclosing
      hscan (ih.mono (Nat.le_of_lt body.shorter))
  · obtain ⟨body, _, hlength⟩ := body
    simp only at hbare
    subst hbare
    obtain ⟨ms'', hother, rfl⟩ := hleft.of_bareInverse tag'
    simp only [afterInverse?, tag'.1, tag'.2, and_self, if_true]
    have hle : left.length + 1 ≤ ts.length + 1 := by
      simp only [List.length_cons] at hlength
      omega
    exact agrees_inverse (fun other q => .block p params (.program body) (some (.program other))
      (some (.path q)) false) hother
      (fun stack hstack => (hscan stack hstack).trans (scan_cons _ _ _)) (ih.mono hle)

/-- An inverted section has a body in which no inverse part begins. -/
theorem agrees_inverted {opener : Token} {us : List Token} {p : Path} {params : List Node}
    (tag : Tag .openInverse (opener :: us) p params) (hts : Marks ts ms)
    (ih : AgreesBelow stop (ts.length + 1)) :
    Agrees inBody (.opening opener p.written true :: ms)
      (statements stop inBody (opener :: (us ++ ts))) := by
  obtain ⟨_, _, hus, hopener, hword, hhead⟩ := @yields_head stop _ _ _ _ tag
  obtain ⟨rfl, rfl⟩ := List.cons.inj hus
  rw [statements]
  simp only [hopener]
  rw [if_neg (by rw [hword]; decide)]
  refine agrees_of_yields (hhead ts) fun _ => ?_
  exact agrees_inverse (fun body q => .block p params (.program body) none (some (.path q)) true)
    hts (fun _ _ => scan_opening) ih

/-- The tag before an inverse part ends the statements where it is allowed, and is at fault
elsewhere. -/
theorem agrees_bare {opener finish : Token} (tag : BareInverse opener finish)
    (hts : Marks ts ms) :
    Agrees inBody (.bare opener :: ms) (statements stop inBody (opener :: finish :: ts)) := by
  rw [statements]
  simp only [tag.1, List.headD_cons, tag.2, if_true]
  cases inBody with
  | true => exact ⟨_, .bare tag hts, .atInverse tag rfl, fun _ _ => rfl⟩
  | false =>
      intro stack hstack
      rw [scan_cons]
      cases stack with
      | nil => rfl
      | cons top stack =>
          have hprimary : top.primary = false := hstack
          rw [step, if_neg (by simp [hprimary])]
          rfl

/-- The parser finds among statements what the scan finds. -/
theorem agrees_statements (bound : Nat) : AgreesBelow stop bound := by
  -- The calls for bodies and for what follows a statement are all on fewer tokens.
  induction bound with
  | zero => exact fun _ _ _ hlt => absurd hlt (Nat.not_lt_zero _)
  | succ bound ih =>
      intro inBody ts ms hbound h
      cases h with
      | nil =>
          rw [statements]
          exact ⟨[], .nil, .atEnd, fun _ _ => rfl⟩
      | text ht rest =>
          rw [List.length_cons] at hbound
          rw [statements]
          rcases ht with ht | ht
          · simp only [ht]
            exact agrees_map (fun _ _ => scan_cons _ _ _) (ih _ _ _ (by omega) rest)
          · simp only [ht]
            exact agrees_map (fun _ _ => scan_cons _ _ _) (ih _ _ _ (by omega) rest)
      | @insertion _ _ ts _ _ _ tag rest =>
          rw [List.length_cons, List.length_append] at hbound
          obtain ⟨_, _, hus, hopener, -, hhead⟩ := @yields_head stop _ _ _ _ tag
          obtain ⟨rfl, rfl⟩ := List.cons.inj hus
          rw [statements]
          simp only [hopener]
          refine agrees_of_yields (hhead ts) fun _ => ?_
          exact agrees_map (fun _ _ => scan_cons _ _ _) (ih _ ts _ (by omega) rest)
      | @inclusion _ _ ts _ _ tag rest =>
          rw [List.length_cons, List.length_append] at hbound
          obtain ⟨_, _, hus, hopener, hinclusion⟩ := @yields_inclusion stop _ _ tag
          obtain ⟨rfl, rfl⟩ := List.cons.inj hus
          rw [statements]
          simp only [hopener]
          refine agrees_of_yields (hinclusion ts) fun _ => ?_
          exact agrees_map (fun _ _ => scan_cons _ _ _) (ih _ ts _ (by omega) rest)
      | block tag rest =>
          rw [List.length_cons, List.length_append] at hbound
          exact agrees_block tag rest (ih.mono (by omega))
      | inverted tag rest =>
          rw [List.length_cons, List.length_append] at hbound
          exact agrees_inverted tag rest (ih.mono (by omega))
      | bare tag rest => exact agrees_bare tag rest
      | closing tag rest =>
          have hopener := kind_of_closing tag
          rw [statements]
          simp only [hopener]
          exact ⟨_, .closing tag rest, .atClosing hopener, fun _ _ => rfl⟩

/-- A template is at fault just where the scan of its marks is. -/
theorem template_nesting (h : Marks ts ms) :
    (template stop ts).map (fun _ => ()) = scan [] ms := by
  have hagrees : Agrees false ms (statements stop false ts) :=
    agrees_statements _ _ _ _ (Nat.lt_succ_self _) h
  unfold template
  cases hall : statements stop false ts with
  | error e =>
      rw [hall] at hagrees
      exact (hagrees [] rfl).symm
  | ok all =>
      rw [hall] at hagrees
      obtain ⟨ms', hrest, hstops, hscan⟩ := hagrees
      obtain ⟨statements, rest, _⟩ := all
      rw [hscan [] rfl]
      cases hstops with
      | atEnd =>
          cases hrest
          rfl
      | atInverse _ hbody => cases hbody
      | atClosing ht =>
          obtain ⟨us, left, q, ms'', rfl, -, -, rfl⟩ := hrest.of_openEnd ht
          rw [scan_cons]
          exact congrArg (Except.map fun _ => ()) (if_pos ht)

end Node.Parser

namespace Node

open Nesting

/-- **The parser is a stack machine.** Where every tag is well formed by itself, a sequence of
tokens is accepted just when the scan of its marks ends with no block open. Otherwise the error is
the first fault of the scan, or at the end of the template the innermost block that is open. -/
theorem ofTokens_nesting {ts : List Token} {stop : Token} {ms : List Mark} (hmarks : Marks ts ms)
    (honly : ∀ t ∈ ts, t.kind ≠ .eof) (hstop : stop.kind = .eof) :
    ((∃ n, ofTokens (ts ++ [stop]) = .ok n) ↔ run [] ms = .ok []) ∧
      ∀ e, ofTokens (ts ++ [stop]) = .error e ↔
        run [] ms = .error e ∨ ∃ top stack, run [] ms = .ok (top :: stack) ∧
          e = ⟨.unclosedBlock top.written, some top.opener⟩ := by
  have htake : (ts ++ [stop]).takeWhile (·.kind ≠ .eof) = ts := by
    rw [List.takeWhile_append_of_pos (fun t ht => decide_eq_true (honly t ht)),
      List.takeWhile_cons_of_neg (by simp [hstop]), List.append_nil]
  have hscan : (ofTokens (ts ++ [stop])).map (fun _ => ()) = scan [] ms := by
    rw [ofTokens, List.getLast?_concat]
    simp only [hstop, if_true, htake]
    exact Parser.template_nesting hmarks
  rw [scan] at hscan
  cases hrun : run [] ms with
  | error e =>
      rw [hrun] at hscan
      cases hparse : ofTokens (ts ++ [stop]) with
      | ok n => simp [hparse, Except.map, bind, Except.bind] at hscan
      | error e' =>
          obtain rfl : e' = e := by simpa [hparse, Except.map, bind, Except.bind] using hscan
          simp
  | ok stack =>
      rw [hrun] at hscan
      cases stack with
      | nil =>
          cases hparse : ofTokens (ts ++ [stop]) with
          | ok n => simp
          | error e' => simp [hparse, Except.map, bind, Except.bind, finish] at hscan
      | cons top stack =>
          cases hparse : ofTokens (ts ++ [stop]) with
          | ok n => simp [hparse, Except.map, bind, Except.bind, finish] at hscan
          | error e' =>
              have he : e' = ⟨.unclosedBlock top.written, some top.opener⟩ := by
                simpa [hparse, Except.map, bind, Except.bind, finish] using hscan
              rw [he]
              simp [eq_comm]

/-- A second tag for an inverse part, in a block that has begun its inverse part. -/
def secondInverse : Token where
  kind := .openInverse
  text := "\x7b\x7b^"
  start := ⟨13, 1, 14⟩

/-- The path of that block, as tokens. -/
def blockName : List Token :=
  [⟨.word, "a", {}⟩]

/-- The tokens of a block with two inverse parts. -/
def twiceInverse : List Token :=
  ⟨.openBlock, "\x7b\x7b#", {}⟩ :: (blockName ++ [] ++ [⟨.close, "\x7d\x7d", {}⟩] ++
    (⟨.openInverse, "\x7b\x7b^", {}⟩ :: ⟨.close, "\x7d\x7d", {}⟩ :: ⟨.content, "x", {}⟩ ::
      secondInverse :: ⟨.close, "\x7d\x7d", {}⟩ ::
        (⟨.openEnd, "\x7b\x7b/", {}⟩ :: (blockName ++ [⟨.close, "\x7d\x7d", {}⟩] ++ []))))

/-- The marks of these tokens. -/
def twiceInverseMarks : List Mark :=
  [.opening ⟨.openBlock, "\x7b\x7b#", {}⟩ "a" false, .bare ⟨.openInverse, "\x7b\x7b^", {}⟩, .plain,
    .bare secondInverse, .closing ⟨.openEnd, "\x7b\x7b/", {}⟩ "a"]

theorem marks_twiceInverse : Marks twiceInverse twiceInverseMarks := by
  have hname : IsPath blockName ⟨["a"], 0, "a"⟩ :=
    @IsPath.intro blockName ["a"] ["a"] 0 (.one rfl) (by decide) (by decide)
  exact .block (.intro rfl hname .nil rfl) <| .bare ⟨rfl, rfl⟩ <| .text (.inl rfl) <|
    .bare ⟨rfl, rfl⟩ <| .closing (.intro rfl hname rfl) .nil

theorem ofTokens_nesting_twiceInverse :
    Marks twiceInverse twiceInverseMarks ∧ (∀ t ∈ twiceInverse, t.kind ≠ .eof) ∧
      (⟨.eof, "", {}⟩ : Token).kind = .eof ∧
      run [] twiceInverseMarks = .error ⟨.inverseOutsideBlock, some secondInverse⟩ ∧
      ofTokens (twiceInverse ++ [⟨.eof, "", {}⟩]) =
        .error ⟨.inverseOutsideBlock, some secondInverse⟩ := by
  have honly : ∀ t ∈ twiceInverse, t.kind ≠ .eof := by decide
  have hrun : run [] twiceInverseMarks = .error ⟨.inverseOutsideBlock, some secondInverse⟩ := rfl
  exact ⟨marks_twiceInverse, honly, rfl, hrun,
    ((ofTokens_nesting marks_twiceInverse honly rfl).2 _).2 (.inl hrun)⟩

end Node

end Templating
