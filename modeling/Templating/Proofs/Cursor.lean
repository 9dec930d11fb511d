import Templating.Proofs.Parsing
import Templating.Proofs.Row

/-!
# The position stays in the row

What a parser that keeps a position reads beyond the row of tokens (`Row.beyond`) is never seen.
Once the row is known to finish with an end token, each step forward is made from a token that is no
end token, so that the position stays below the length of the row. Such a parser gives the same tree
or the same error as the one that hands on the tokens left, whatever is read beyond the row, and
also if going there is the end of it (`Node.ofTokens_safe`).

Each reading is compared with a parsing function by one relation (`Row.Agrees`), which sequencing
keeps; the position stands for the tokens left before the first end token (`Row.At`).
-/

namespace Templating

/-! ## Positions and the tokens left -/

/-- The tokens from a position to the first end token, which is `stop`. -/
structure Row.At (row : Row) (stop : Token) (i : Nat) (ts : List Token) : Prop where
  left : ∃ after, row.tokens.drop i = ts ++ stop :: after
  inside : ∀ t ∈ ts, t.kind ≠ .eof
  ends : stop.kind = .eof

namespace Row.At

variable {row : Row} {stop t : Token} {i : Nat} {ts : List Token} {α : Type}

theorem tail (h : row.At stop i (t :: ts)) : row.At stop (i + 1) ts := by
  obtain ⟨after, hdrop⟩ := h.left
  refine ⟨⟨after, ?_⟩, fun u hu => h.inside u (by simp [hu]), h.ends⟩
  rw [← List.drop_drop, hdrop]
  rfl

theorem getElem?_eq_headD (h : row.At stop i ts) : row.tokens[i]? = some (ts.headD stop) := by
  obtain ⟨after, hdrop⟩ := h.left
  rw [← List.head?_drop, hdrop]
  cases ts with
  | nil | cons _ _ => rfl

theorem headD_mem (h : row.At stop i ts) : ts.headD stop ∈ row.tokens :=
  List.mem_of_getElem? h.getElem?_eq_headD

theorem head_mem (h : row.At stop i (t :: ts)) : t ∈ row.tokens :=
  h.headD_mem

/-- The tokens left are not more than all tokens. -/
theorem length_lt (h : row.At stop i ts) : ts.length < row.rounds := by
  obtain ⟨after, hdrop⟩ := h.left
  have hlength := congrArg List.length hdrop
  rw [List.length_drop, List.length_append, List.length_cons] at hlength
  rw [rounds]
  omega

/-- **The end token is never left behind**: there is a token after one that is no end token. -/
theorem succ_lt (h : row.At stop i (t :: ts)) : i + 1 < row.tokens.length :=
  (List.getElem?_eq_some_iff.1 h.tail.getElem?_eq_headD).1

theorem current_bind (h : row.At stop i ts) (f : Token → Reading α) :
    (row.current >>= f).run i = (f (ts.headD stop)).run i := by
  have hcurrent : row.current.run i = .ok (ts.headD stop, i) := by
    show (row.tokenAt i).run i = _
    rw [tokenAt, h.getElem?_eq_headD]
    rfl
  rw [StateT.run_bind, hcurrent]
  rfl

theorem peek_bind (h : row.At stop i (t :: ts)) (f : Token → Reading α) :
    (row.peek >>= f).run i = (f (ts.headD stop)).run i := by
  have hpeek : row.peek.run i = .ok (ts.headD stop, i) := by
    show (row.tokenAt (i + 1)).run i = _
    rw [tokenAt, h.tail.getElem?_eq_headD]
    rfl
  rw [StateT.run_bind, hpeek]
  rfl

theorem run_advance (h : row.At stop i (t :: ts)) : row.advance.run i = .ok (t, i + 1) := by
  have hnext : row.next i = .ok (i + 1) := if_pos h.succ_lt
  rw [advance, h.current_bind]
  show (row.next i >>= fun j => .ok (j, i)) >>= _ = _
  rw [hnext]
  rfl

theorem advance_bind (h : row.At stop i (t :: ts)) (f : Token → Reading α) :
    (row.advance >>= f).run i = (f t).run (i + 1) := by
  rw [StateT.run_bind, h.run_advance]
  rfl

theorem expect_bind (h : row.At stop i (t :: ts)) {kind : TokenKind} (hkind : t.kind = kind)
    (problem : TokenKind → GrammarProblem) (f : Token → Reading α) :
    (row.expect kind problem >>= f).run i = (f t).run (i + 1) := by
  have hexpect : (row.expect kind problem).run i = .ok (t, i + 1) := by
    rw [expect, h.current_bind, List.headD_cons, if_pos hkind, h.run_advance]
  rw [StateT.run_bind, hexpect]
  rfl

/-- The lookahead finds a bare inverse tag just where the tokens left begin with one. -/
theorem atBareInverse_bind (h : row.At stop i ts) (f : Bool → Reading α) :
    (row.atBareInverse >>= f).run i = (f (Node.Parser.afterInverse? ts).isSome).run i := by
  rw [atBareInverse, bind_assoc, h.current_bind]
  cases ts with
  | nil =>
      rw [List.headD_nil, if_neg (by rw [h.ends]; decide)]
      rfl
  | cons t ts =>
      rw [List.headD_cons]
      by_cases hopener : t.kind = .openInverse
      · rw [if_pos hopener, bind_assoc, h.peek_bind]
        cases ts with
        | nil =>
            rw [List.headD_nil, h.ends]
            rfl
        | cons finish ts =>
            rw [List.headD_cons, pure_bind, Node.Parser.afterInverse?]
            by_cases hfinish : finish.kind = .close
            · rw [if_pos ⟨hopener, hfinish⟩, decide_eq_true hfinish]
              rfl
            · rw [if_neg (fun hboth => hfinish hboth.2), decide_eq_false hfinish]
              rfl
      · rw [if_neg hopener]
        cases ts with
        | nil => rfl
        | cons finish ts =>
            rw [Node.Parser.afterInverse?, if_neg (fun hboth => hopener hboth.1)]
            rfl

end Row.At

/-! ## Readings and parsing functions -/

/-- Whether an error is at one of the tokens. -/
def GrammarError.Blames (e : GrammarError) (ts : List Token) : Prop :=
  ∃ t ∈ ts, e.token = some t

theorem GrammarError.Blames.mono {e : GrammarError} {us ts : List Token} (h : e.Blames us)
    (hsub : us ⊆ ts) : e.Blames ts := by
  obtain ⟨t, ht, htoken⟩ := h
  exact ⟨t, hsub ht, htoken⟩

theorem map_eq_error {ε α β : Type} {x : Except ε α} {f : α → β} {e : ε} :
    x.map f = .error e ↔ x = .error e := by
  cases x <;> simp [Except.map]

/-- A reading and a parsing function come to values that are related, the position standing for the
tokens left, or to one error at a token of the row. -/
inductive Row.Agrees (row : Row) (stop : Token) {α β : Type} {n : Nat} (V : α → β → Prop) :
    Except Halt (α × Nat) → Except GrammarError (Node.Taken β n) → Prop where
  | ok {a : α} {i : Nat} {taken : Node.Taken β n} (hvalue : V a taken.value)
      (hat : row.At stop i taken.rest) : Agrees row stop V (.ok (a, i)) (.ok taken)
  | refused {e : GrammarError} (he : e.Blames row.tokens) :
      Agrees row stop V (.error (.refused e)) (.error e)

namespace Path

variable {ts : List Token} {e : GrammarError}

theorem blames_of_names_eq_error (h : names ts = .error e) : e.Blames ts := by
  unfold names at h
  cases hfind : ts.find? (·.text = parentSegment) with
  | none =>
      rw [hfind] at h
      cases h
  | some t =>
      rw [hfind] at h
      cases h
      exact ⟨t, List.mem_of_find?_eq_some hfind, rfl⟩

theorem blames_of_steps_eq_error {first : Bool} {depth : Nat}
    (h : steps first depth ts = .error e) : e.Blames ts := by
  induction ts generalizing first depth with
  | nil => cases h
  | cons t ts ih =>
      rw [steps] at h
      split at h
      · exact (ih h).mono (List.subset_cons_self t ts)
      · split at h
        · exact (ih h).mono (List.subset_cons_self t ts)
        · exact blames_of_names_eq_error (map_eq_error.1 h)

/-- An error about segments is at one of them. -/
theorem blames_of_ofSegments_eq_error {first : Token} {more : List (Token × Token)}
    (h : ofSegments first more = .error e) : e.Blames (first :: more.map (·.2)) :=
  blames_of_steps_eq_error (map_eq_error.1 h)

end Path

namespace Row

open Node Node.Parser

variable {row : Row} {stop t : Token} {i : Nat} {ts : List Token}

section Rules

variable {α β γ δ : Type} {V : α → β → Prop} {W : γ → δ → Prop} {m n : Nat}

theorem Agrees.bind {x : Reading α} {y : Except GrammarError (Taken β m)} {f : α → Reading γ}
    {g : Taken β m → Except GrammarError (Taken δ n)} (h : row.Agrees stop V (x.run i) y)
    (hfg : ∀ a j left, V a left.value → row.At stop j left.rest →
      row.Agrees stop W ((f a).run j) (g left)) :
    row.Agrees stop W ((x >>= f).run i) (y >>= g) := by
  rw [StateT.run_bind]
  generalize x.run i = r at h
  cases h with
  | ok hvalue hat => exact hfg _ _ _ hvalue hat
  | refused he => exact .refused he

/-- A reading that only changes the value. -/
theorem Agrees.map {x : Reading α} {y : Except GrammarError (Taken β m)} {f : α → γ}
    {U : γ → β → Prop} (h : row.Agrees stop V (x.run i) y) (hf : ∀ a b, V a b → U (f a) b) :
    row.Agrees stop U ((x >>= fun a => pure (f a)).run i) y := by
  rw [StateT.run_bind]
  generalize x.run i = r at h
  cases h with
  | ok hvalue hat => exact .ok (hf _ _ hvalue) hat
  | refused he => exact .refused he

theorem At.agrees_blame (h : row.At stop i ts) (problem : TokenKind → GrammarProblem) :
    row.Agrees stop V ((refuse (ts.headD stop) (problem (ts.headD stop).kind) : Reading α).run i)
      (blame stop ts problem : Except GrammarError (Taken β n)) :=
  .refused ⟨_, h.headD_mem, rfl⟩

end Rules

/-- The end token is never taken. -/
theorem At.agrees_expect (h : row.At stop i ts) {kind : TokenKind} (hkind : kind ≠ .eof)
    (problem : TokenKind → GrammarProblem) :
    row.Agrees stop (fun t u => t = u ∧ t ∈ row.tokens) ((row.expect kind problem).run i)
      (Parser.expect stop kind problem ts) := by
  rw [Row.expect, h.current_bind]
  cases ts with
  | nil =>
      rw [if_neg (by rw [List.headD_nil, h.ends]; exact hkind.symm)]
      exact h.agrees_blame problem
  | cons t ts =>
      rw [Parser.expect, List.headD_cons]
      split
      · rw [h.run_advance]
        exact .ok ⟨rfl, h.head_mem⟩ h.tail
      · exact h.agrees_blame problem

theorem At.agrees_close (h : row.At stop i ts) :
    row.Agrees stop (fun t u => t = u ∧ t ∈ row.tokens) (row.close.run i)
      (Parser.close stop ts) :=
  h.agrees_expect (by decide) _

theorem agrees_segments (rounds : Nat) (hrounds : ts.length < rounds) (h : row.At stop i ts) :
    row.Agrees stop (fun more more' => more = more' ∧ ∀ s ∈ more, s.2 ∈ row.tokens)
      ((row.segments rounds).run i) (Parser.segments stop ts) := by
  -- Each round takes two tokens, so that the rounds last.
  induction rounds generalizing i ts with
  | zero => omega
  | succ rounds ih =>
      rw [Row.segments, h.current_bind]
      cases ts with
      | nil =>
          rw [List.headD_nil, if_neg (by rw [h.ends]; decide), Parser.segments]
          exact .ok ⟨rfl, by simp⟩ h
      | cons separator ts =>
          rw [List.headD_cons]
          by_cases hseparator : separator.kind = .separator
          · rw [if_pos hseparator, h.advance_bind, Row.expect, bind_assoc, h.tail.current_bind]
            cases ts with
            | nil =>
                rw [Parser.segments, if_pos hseparator, List.headD_nil,
                  if_neg (by rw [h.ends]; decide)]
                exact .refused ⟨_, h.tail.headD_mem, rfl⟩
            | cons segment ts =>
                rw [Parser.segments, if_pos hseparator, List.headD_cons]
                by_cases hword : segment.kind = .word
                · rw [if_pos hword, if_pos hword, h.tail.advance_bind]
                  have hlength : ts.length < rounds := by
                    rw [List.length_cons, List.length_cons] at hrounds
                    omega
                  refine (ih hlength h.tail.tail).bind fun more j left hmore hat => ?_
                  refine .ok ⟨by rw [hmore.1], ?_⟩ hat
                  rw [List.forall_mem_cons]
                  exact ⟨h.tail.head_mem, hmore.2⟩
                · rw [if_neg hword, if_neg hword]
                  exact .refused ⟨_, h.tail.head_mem, rfl⟩
          · rw [if_neg hseparator]
            cases ts with
            | nil | cons _ _ =>
                rw [Parser.segments, if_neg hseparator]
                exact .ok ⟨rfl, by simp⟩ h

theorem At.agrees_path (h : row.At stop i ts) :
    row.Agrees stop Eq (row.path.run i) (Parser.path stop ts) := by
  refine (h.agrees_expect (by decide) _).bind fun first j left hfirst hat => ?_
  obtain ⟨rfl, hmem⟩ := hfirst
  refine (agrees_segments _ hat.length_lt hat).bind fun more j left' hmore hat => ?_
  obtain ⟨rfl, hsegments⟩ := hmore
  cases hpath : Path.ofSegments left.value left'.value with
  | ok p => exact .ok rfl hat
  | error e =>
      refine .refused ((Path.blames_of_ofSegments_eq_error hpath).mono fun t ht => ?_)
      rcases List.mem_cons.1 ht with rfl | ht
      · exact hmem
      · obtain ⟨s, hs, rfl⟩ := List.mem_map.1 ht
        exact hsegments s hs

theorem agrees_params (rounds : Nat) (hrounds : ts.length < rounds) (h : row.At stop i ts) :
    row.Agrees stop Eq ((row.params rounds).run i) (Parser.params stop ts) := by
  induction rounds generalizing i ts with
  | zero => omega
  | succ rounds ih =>
      rw [Row.params, h.current_bind]
      cases ts with
      | nil =>
          rw [List.headD_nil, if_neg (by rw [h.ends]; decide), if_neg (by rw [h.ends]; decide),
            Parser.params]
          exact .ok rfl h
      | cons t ts =>
          rw [List.headD_cons, Parser.params]
          rw [List.length_cons] at hrounds
          split
          · rw [h.advance_bind]
            refine (ih (by omega) h.tail).bind fun more j left hmore hat => ?_
            exact .ok (by rw [hmore]) hat
          · split
            · refine h.agrees_path.bind fun first j left hfirst hat => ?_
              have hshorter : left.rest.length < ts.length + 1 := left.shorter
              refine (ih (by omega) hat).bind fun more j left' hmore hat => ?_
              exact .ok (by rw [hfirst, hmore]) hat
            · exact .ok rfl h

theorem At.agrees_head (h : row.At stop i ts) :
    row.Agrees stop Eq (row.head.run i) (Parser.head stop ts) := by
  refine h.agrees_path.bind fun p j left hp hat => ?_
  refine (agrees_params _ hat.length_lt hat).bind fun params j left' hparams hat => ?_
  refine hat.agrees_close.bind fun _ j left'' _ hat => ?_
  exact .ok (by rw [hp, hparams]) hat

theorem At.agrees_insertion (h : row.At stop i (t :: ts)) (ht : t.kind = .openValue) :
    row.Agrees stop (fun n v => n = .insertion v.1 v.2) (row.insertion.run i)
      (Parser.head stop ts) := by
  rw [insertion, h.expect_bind ht]
  refine h.tail.agrees_head.map fun v w hvalue => ?_
  rw [hvalue]

theorem At.agrees_inclusion (h : row.At stop i (t :: ts)) (ht : t.kind = .openPartial) :
    row.Agrees stop Eq (row.inclusion.run i) (Parser.inclusion stop ts) := by
  rw [Row.inclusion, h.expect_bind ht]
  refine (h.tail.agrees_expect (by decide) _).bind fun name j left hname hat => ?_
  rw [hat.current_bind, hname.1]
  dsimp only
  split
  · refine hat.agrees_path.bind fun context j left' hcontext hat => ?_
    refine hat.agrees_close.bind fun _ j left'' _ hat => ?_
    exact .ok (by rw [hcontext]) hat
  · refine hat.agrees_close.bind fun _ j left' _ hat => ?_
    exact .ok rfl hat

theorem At.agrees_closing (h : row.At stop i ts) {opener : Token} (hopener : opener ∈ row.tokens)
    (opened : Path) :
    row.Agrees stop Eq ((row.closing opener opened).run i)
      (Parser.closing stop opener opened ts) := by
  rw [Row.closing, h.current_bind]
  cases ts with
  | nil =>
      rw [List.headD_nil, if_neg (by rw [h.ends]; decide)]
      exact .refused ⟨_, hopener, rfl⟩
  | cons t ts =>
      rw [List.headD_cons, Parser.closing]
      split
      · rw [h.advance_bind]
        refine h.tail.agrees_path.bind fun closed j left hclosed hat => ?_
        rw [hclosed]
        split
        · refine hat.agrees_close.bind fun _ j left' _ hat => ?_
          exact .ok rfl hat
        · exact .refused ⟨_, h.head_mem, rfl⟩
      · exact .refused ⟨_, hopener, rfl⟩

/-- A bare inverse tag is two tokens, none of which is an end token. -/
theorem exists_of_afterInverse?_eq_some {after : List Token} {hshorter : after.length < ts.length}
    (h : afterInverse? ts = some ⟨after, hshorter⟩) :
    ∃ opener finish, ts = opener :: finish :: after ∧ Grammar.BareInverse opener finish := by
  cases ts with
  | nil => cases h
  | cons opener ts =>
      cases ts with
      | nil => cases h
      | cons finish ts =>
          rw [afterInverse?] at h
          split at h
          · cases h
            exact ⟨opener, finish, rfl, ‹_›⟩
          · cases h

/-- An opening delimiter that begins no bare inverse tag has no closing one behind it. -/
theorem At.kind_headD_ne_close (h : row.At stop i (t :: ts)) (ht : t.kind = .openInverse)
    (hbare : afterInverse? (t :: ts) = none) : (ts.headD stop).kind ≠ .close := by
  cases ts with
  | nil =>
      rw [List.headD_nil, h.ends]
      decide
  | cons finish ts =>
      intro hfinish
      rw [afterInverse?, if_pos ⟨ht, hfinish⟩] at hbare
      cases hbare

/-- Programs with fewer than so many tokens left, as those inside a statement and behind it. -/
def AgreesWithin (row : Row) (stop : Token) (rounds length : Nat) : Prop :=
  ∀ {inBody : Bool} {i : Nat} {ts : List Token}, ts.length < length → row.At stop i ts →
    row.Agrees stop Eq ((row.program rounds inBody).run i) (statements stop inBody ts)

section Statements

variable {rounds : Nat} {inBody : Bool}

/-- The closing tag of a block, and the statements after the block. -/
theorem At.agrees_afterBody (h : row.At stop i ts) {opener : Token} (hopener : opener ∈ row.tokens)
    (opened : Path) (mk : Path → Node) {n : Nat}
    {bound : ∀ (closed : Taken Path ts.length)
      (more : Taken (List Node) (closed.rest.length + 1)), more.rest.length < n}
    (hmore : row.AgreesWithin stop rounds ts.length) :
    row.Agrees stop Eq
      ((do
        let closed ← row.closing opener opened
        let more ← row.program rounds inBody
        return mk closed :: more : Reading (List Node)).run i)
      (do
        let closed ← Parser.closing stop opener opened ts
        let more ← statements stop inBody closed.rest
        .ok (⟨mk closed.value :: more.value, more.rest, bound closed more⟩ :
          Taken (List Node) n)) := by
  refine (h.agrees_closing hopener opened).bind fun closed j left hclosed hat => ?_
  refine (hmore left.shorter hat).bind fun more j left' hrest hat => ?_
  exact .ok (by rw [hclosed, hrest]) hat

theorem At.agrees_block (h : row.At stop i (t :: ts)) (ht : t.kind = .openBlock)
    (hmore : row.AgreesWithin stop rounds (t :: ts).length) :
    row.Agrees stop Eq
      ((row.block (row.program rounds) >>= fun first =>
        row.program rounds inBody >>= fun more => pure (first :: more)).run i)
      (statements stop inBody (t :: ts)) := by
  rw [List.length_cons] at hmore
  rw [statements, block]
  simp only [ht]
  rw [bind_assoc, h.expect_bind ht, bind_assoc]
  refine h.tail.agrees_head.bind fun first j left hfirst hat => ?_
  have hhead := left.shorter
  obtain ⟨p, params⟩ := first
  rw [bind_assoc]
  refine (hmore (by omega) hat).bind fun body j left' hbody hat => ?_
  have hprimary := left'.shorter
  rw [bind_assoc, hat.atBareInverse_bind, ← hfirst, ← hbody]
  cases hafter : afterInverse? left'.rest with
  | none =>
      rw [Option.isSome_none, if_neg (by decide), bind_assoc]
      exact hat.agrees_afterBody h.head_mem p
        (fun q => .block p params (.program body) none (some (.path q)) false)
        fun hlt => hmore (by omega)
  | some after =>
      obtain ⟨after, hlt⟩ := after
      obtain ⟨opener, finish, hrest, -⟩ := exists_of_afterInverse?_eq_some hafter
      rw [hrest] at hat
      rw [Option.isSome_some, if_pos rfl, bind_assoc, hat.advance_bind, bind_assoc,
        hat.tail.advance_bind, bind_assoc]
      refine (hmore (by omega) hat.tail.tail).bind fun other j left'' hother hat => ?_
      have hinverse : left''.rest.length < after.length + 1 := left''.shorter
      rw [bind_assoc, ← hother]
      exact hat.agrees_afterBody h.head_mem p
        (fun q => .block p params (.program body) (some (.program other)) (some (.path q)) false)
        fun hlt => hmore (by omega)

theorem At.agrees_inverted (h : row.At stop i (t :: ts)) (ht : t.kind = .openInverse)
    (hbare : afterInverse? (t :: ts) = none)
    (hmore : row.AgreesWithin stop rounds (t :: ts).length) :
    row.Agrees stop Eq
      ((row.inverted (row.program rounds) >>= fun first =>
        row.program rounds inBody >>= fun more => pure (first :: more)).run i)
      (statements stop inBody (t :: ts)) := by
  rw [List.length_cons] at hmore
  rw [statements, inverted]
  simp only [ht]
  rw [if_neg (h.kind_headD_ne_close ht hbare), bind_assoc, h.expect_bind ht, bind_assoc]
  refine h.tail.agrees_head.bind fun first j left hfirst hat => ?_
  have hhead := left.shorter
  obtain ⟨p, params⟩ := first
  rw [bind_assoc]
  refine (hmore (by omega) hat).bind fun body j left' hbody hat => ?_
  have hprimary := left'.shorter
  rw [bind_assoc, ← hfirst, ← hbody]
  exact hat.agrees_afterBody h.head_mem p
    (fun q => .block p params (.program body) none (some (.path q)) true) fun hlt =>
      hmore (by omega)

/-- A statement, and the statements after it. -/
theorem At.agrees_statement (h : row.At stop i (t :: ts)) (hend : t.kind ≠ .openEnd)
    (hbare : afterInverse? (t :: ts) = none)
    (hmore : row.AgreesWithin stop rounds (t :: ts).length) :
    row.Agrees stop Eq
      ((row.statement (row.program rounds) >>= fun first =>
        row.program rounds inBody >>= fun more => pure (first :: more)).run i)
      (statements stop inBody (t :: ts)) := by
  rw [statement, bind_assoc, h.current_bind, List.headD_cons]
  cases hkind : t.kind with
  | openEnd => exact absurd hkind hend
  | eof => exact absurd hkind (h.inside t (by simp))
  | openBlock => exact h.agrees_block hkind hmore
  | openInverse => exact h.agrees_inverted hkind hbare hmore
  | close | word | separator | literal =>
      rw [statements]
      simp only [hkind]
      exact .refused ⟨_, h.head_mem, rfl⟩
  | content | comment =>
      rw [statements]
      simp only [hkind]
      rw [bind_assoc, h.advance_bind, pure_bind]
      refine (hmore (by simp) h.tail).bind fun more j left hmore hat => ?_
      exact .ok (by rw [hmore]) hat
  | openValue =>
      rw [statements]
      simp only [hkind]
      refine (h.agrees_insertion hkind).bind fun first j left hfirst hat => ?_
      refine (hmore (left.shorter.trans (by simp)) hat).bind fun more j left' hmore hat => ?_
      exact .ok (by rw [hfirst, hmore]) hat
  | openPartial =>
      rw [statements]
      simp only [hkind]
      refine (h.agrees_inclusion hkind).bind fun first j left hfirst hat => ?_
      refine (hmore (left.shorter.trans (by simp)) hat).bind fun more j left' hmore hat => ?_
      exact .ok (by rw [hfirst, hmore]) hat

end Statements

theorem agrees_program (rounds : Nat) {inBody : Bool} (hrounds : ts.length < rounds)
    (h : row.At stop i ts) :
    row.Agrees stop Eq ((row.program rounds inBody).run i) (statements stop inBody ts) := by
  -- Every statement takes a token, and the programs inside it have fewer tokens left than it has.
  induction rounds generalizing inBody i ts with
  | zero => omega
  | succ rounds ih =>
      rw [program, h.current_bind]
      cases ts with
      | nil =>
          rw [List.headD_nil, if_pos (.inl h.ends), statements]
          exact .ok rfl h
      | cons t ts =>
          have heof := h.inside t (by simp)
          rw [List.headD_cons]
          by_cases hend : t.kind = .openEnd
          · rw [if_pos (.inr hend), statements]
            simp only [hend]
            exact .ok rfl h
          rw [if_neg (not_or.2 ⟨heof, hend⟩), h.atBareInverse_bind]
          cases hafter : afterInverse? (t :: ts) with
          | none => exact h.agrees_statement hend hafter fun hlt => ih (by omega)
          | some after =>
              obtain ⟨after, _⟩ := after
              obtain ⟨_, finish, hrest, hopener, hfinish⟩ := exists_of_afterInverse?_eq_some hafter
              cases hrest
              rw [Option.isSome_some, if_pos rfl, statements]
              simp only [hopener]
              rw [List.headD_cons, if_pos hfinish]
              cases inBody with
              | true => exact .ok rfl h
              | false => exact .refused ⟨_, h.head_mem, rfl⟩

/-- How parsing by position and parsing end: with one program, or with one error at a token of the
row. Only an empty row has no token to blame. -/
inductive Ends : List Token → Except Halt Node → Except GrammarError Node → Prop where
  | program {tokens : List Token} (ns : List Node) :
      Ends tokens (.ok (.program ns)) (.ok (.program ns))
  | refused {tokens : List Token} {e : GrammarError} (he : e.Blames tokens) :
      Ends tokens (.error (.refused e)) (.error e)
  | empty {e : GrammarError} (he : e.token = none) : Ends [] (.error (.refused e)) (.error e)

theorem At.ends_template (h : row.At stop 0 ts) :
    Ends row.tokens (row.template.run' 0) (Parser.template stop ts) := by
  have hall : row.Agrees stop Eq ((row.program row.rounds false).run 0)
      (statements stop false ts) := agrees_program row.rounds h.length_lt h
  rw [StateT.run'_eq, template, Parser.template, StateT.run_bind]
  generalize (row.program row.rounds false).run 0 = r at hall
  generalize statements stop false ts = y at hall
  cases hall with
  | refused he => exact .refused he
  | @ok ns i all hvalue hat =>
      obtain ⟨ns, rest, hshorter⟩ := all
      obtain rfl := hvalue
      show Ends _ ((·.1) <$> (row.finish ns).run i) _
      rw [finish, hat.current_bind]
      cases rest with
      | nil =>
          rw [List.headD_nil, if_neg (by rw [hat.ends]; decide), if_pos hat.ends]
          exact .program ns
      | cons t rest =>
          have hend := hat.inside t (by simp)
          rw [List.headD_cons, if_neg hend]
          by_cases hclosing : t.kind = .openEnd
          · rw [if_pos hclosing]
            show Ends _ _ (if t.kind = .openEnd then _ else _)
            rw [if_pos hclosing]
            exact .refused ⟨_, hat.head_mem, rfl⟩
          · rw [if_neg hclosing]
            show Ends _ _ (if t.kind = .openEnd then _ else _)
            rw [if_neg hclosing]
            exact .refused ⟨_, hat.head_mem, rfl⟩

/-- The start of a row that finishes with an end token. -/
theorem at_zero {last : Token} (hlast : row.tokens.getLast? = some last) (heof : last.kind = .eof) :
    row.At ((row.tokens.find? (·.kind = .eof)).getD last) 0
      (row.tokens.takeWhile (·.kind ≠ .eof)) := by
  have hmem := List.mem_of_getLast? hlast
  cases hfind : row.tokens.find? (·.kind = .eof) with
  | none =>
      have hnone := List.find?_eq_none.1 hfind last hmem
      exact absurd (decide_eq_true heof) hnone
  | some stop =>
      obtain ⟨hstop, before, after, htokens, hbefore⟩ := List.find?_eq_some_iff_append.1 hfind
      have hinside : ∀ t ∈ before, t.kind ≠ .eof := by simpa using hbefore
      have hends : stop.kind = .eof := by simpa using hstop
      have htake : row.tokens.takeWhile (·.kind ≠ .eof) = before := by
        rw [htokens, List.takeWhile_append_of_pos (fun t ht => decide_eq_true (hinside t ht)),
          List.takeWhile_cons_of_neg (by simp [hends]), List.append_nil]
      rw [htake]
      exact ⟨⟨after, htokens⟩, hinside, hends⟩

theorem ends_parse (row : Row) : Ends row.tokens row.parse (ofTokens row.tokens) := by
  unfold parse ofTokens
  cases hlast : row.tokens.getLast? with
  | none =>
      rw [List.getLast?_eq_none_iff.1 hlast]
      exact .empty rfl
  | some last =>
      dsimp only
      split
      · exact (at_zero hlast ‹_›).ends_template
      · exact .refused ⟨last, List.mem_of_getLast? hlast, rfl⟩

end Row

namespace Node

/-- **The parser is safe on every row of tokens.** It gives a program or one grammar error, which
blames a token of the row unless the row is empty. Reading the row by position comes to the same
end: its loops are done in time, and what is read beyond the row makes no difference, as the
position stays below the length of the row and the lookahead does too. So an error about a template
that has any tokens says its line and its column. -/
theorem ofTokens_safe :
    (∀ tokens : List Token,
      (∀ beyond, Row.parse ⟨tokens, beyond⟩ = (ofTokens tokens).mapError .refused) ∧
      ((∃ ns, ofTokens tokens = .ok (.program ns)) ∨
        ∃ e, ofTokens tokens = .error e ∧
          (e.Blames tokens ∨ tokens = [] ∧ e.token = none))) ∧
    ∀ template : String,
      (∃ ns, ofTemplate template = .ok (.program ns)) ∨
        (∃ e, ∃ t ∈ Token.ofTemplate template, ofTemplate template = .error e ∧
          e.token = some t ∧ e.message =
            s!"{e.problem.message} at {t.start.line}:{t.start.column} (token: {t.kind.name})") ∨
        Token.ofTemplate template = [] := by
  have hends (tokens : List Token) :
      (∃ ns, ofTokens tokens = .ok (.program ns)) ∨
        ∃ e, ofTokens tokens = .error e ∧ (e.Blames tokens ∨ tokens = [] ∧ e.token = none) := by
    have h := Row.ends_parse ⟨tokens, none⟩
    dsimp only at h
    generalize Row.parse ⟨tokens, none⟩ = r at h
    generalize ofTokens tokens = y at h
    cases h with
    | program ns => exact .inl ⟨ns, rfl⟩
    | refused he => exact .inr ⟨_, rfl, .inl he⟩
    | empty he => exact .inr ⟨_, rfl, .inr ⟨rfl, he⟩⟩
  refine ⟨fun tokens => ⟨fun beyond => ?_, hends tokens⟩, fun template => ?_⟩
  · have h := Row.ends_parse ⟨tokens, beyond⟩
    dsimp only at h
    generalize Row.parse ⟨tokens, beyond⟩ = r at h ⊢
    generalize ofTokens tokens = y at h ⊢
    cases h with
    | program | refused | empty => rfl
  · rcases hends (Token.ofTemplate template) with hok | ⟨e, herror, ⟨t, ht, htoken⟩ | ⟨hnil, -⟩⟩
    · exact .inl hok
    · refine .inr (.inl ⟨e, t, ht, herror, htoken, ?_⟩)
      rw [GrammarError.message, htoken]
    · exact .inr (.inr hnil)

end Node

end Templating
