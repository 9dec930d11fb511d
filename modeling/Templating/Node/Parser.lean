import Templating.Node
import Templating.Token.Scan

/-!
# Parsing templates

Tokens become a tree by recursive descent:

* a program is a row of statements;
* an insertion is an opening delimiter, a head and a closing one; a head is a path and parameters;
* a block is an opening tag, a program, at most one inverse part after a bare inverse tag, and the
  closing tag with the path of the opening one; an inverted section has no inverse part;
* an inclusion is a name and perhaps a path.

The first end token ends the template, whatever follows it; a sequence that does not finish with an
end token is refused at once. Every parsing function takes the tokens before that end token and the
end token itself, and returns the tokens it left with a proof that they are fewer.
-/

namespace Templating.Node

/-- What a parsing function hands back: a value, and the tokens left, fewer than `bound`. -/
structure Taken (α : Type) (bound : Nat) where
  value : α
  rest : List Token
  shorter : rest.length < bound

namespace Parser

variable (stop : Token)

/-- The error at the first of the given tokens, or at the end of the template. -/
def blame {α : Type} (ts : List Token) (problem : TokenKind → GrammarProblem) :
    Except GrammarError α :=
  let t := ts.headD stop
  .error ⟨problem t.kind, some t⟩

/-- Takes a token of the given kind. -/
def expect (kind : TokenKind) (problem : TokenKind → GrammarProblem) :
    (ts : List Token) → Except GrammarError (Taken Token ts.length)
  | [] => blame stop [] problem
  | t :: ts =>
    if t.kind = kind then .ok ⟨t, ts, by simp⟩ else blame stop (t :: ts) problem

/-- Takes the delimiter that ends a tag. -/
def close (ts : List Token) : Except GrammarError (Taken Token ts.length) :=
  expect stop .close (.expectedKind .close) ts

/-- The further segments of a path, each with the separator before it. -/
def segments : (ts : List Token) →
    Except GrammarError (Taken (List (Token × Token)) (ts.length + 1))
  | [] => .ok ⟨[], [], by simp⟩
  | separator :: ts =>
    if separator.kind = .separator then
      match ts with
      | [] => blame stop [] fun _ => .expectedNameAfterSeparator
      | segment :: ts =>
        if segment.kind = .word then do
          let more ← segments ts
          .ok ⟨(separator, segment) :: more.value, more.rest, by have := more.shorter; grind⟩
        else
          blame stop (segment :: ts) fun _ => .expectedNameAfterSeparator
    else
      .ok ⟨[], separator :: ts, by simp⟩

/-- A path. -/
def path (ts : List Token) : Except GrammarError (Taken Path ts.length) := do
  let first ← expect stop .word (fun _ => .expectedName) ts
  let more ← segments stop first.rest
  let path ← Path.ofSegments first.value more.value
  .ok ⟨path, more.rest, by have := first.shorter; have := more.shorter; omega⟩

/-- Parameters, as many as there are. -/
def params (ts : List Token) : Except GrammarError (Taken (List Node) (ts.length + 1)) :=
  match ts with
  | [] => .ok ⟨[], [], by simp⟩
  | t :: ts =>
    if t.kind = .literal then do
      let more ← params ts
      .ok ⟨.literal t.text :: more.value, more.rest, by have := more.shorter; grind⟩
    else if t.kind = .word then do
      let first ← path stop (t :: ts)
      have := first.shorter
      let more ← params first.rest
      .ok ⟨.path first.value :: more.value, more.rest, by have := more.shorter; grind⟩
    else
      .ok ⟨[], t :: ts, by simp⟩
termination_by ts.length
decreasing_by all_goals grind

/-- The path and the parameters of a tag, with its closing delimiter. -/
def head (ts : List Token) : Except GrammarError (Taken (Path × List Node) ts.length) := do
  let path ← path stop ts
  let params ← params stop path.rest
  let close ← close stop params.rest
  .ok ⟨(path.value, params.value), close.rest, by
    have := path.shorter; have := params.shorter; have := close.shorter; omega⟩

/-- The name and the optional context of an inclusion, with the closing delimiter. -/
def inclusion (ts : List Token) : Except GrammarError (Taken Node ts.length) := do
  let name ← expect stop .word (fun _ => .expectedPartialName) ts
  have := name.shorter
  if (name.rest.headD stop).kind = .word then
    let context ← path stop name.rest
    let close ← close stop context.rest
    .ok ⟨.inclusion name.value.text (some (.path context.value)), close.rest, by
      have := context.shorter; have := close.shorter; omega⟩
  else
    let close ← close stop name.rest
    .ok ⟨.inclusion name.value.text none, close.rest, by have := close.shorter; omega⟩

/-- The closing tag of a block that `opener` opened with the given path. -/
def closing (opener : Token) (opened : Path) (ts : List Token) :
    Except GrammarError (Taken Path ts.length) :=
  let unclosed : GrammarError := ⟨.unclosedBlock opened.written, some opener⟩
  match ts with
  | [] => .error unclosed
  | t :: ts =>
    if t.kind = .openEnd then do
      let closed ← path stop ts
      if closed.value.written = opened.written then
        let close ← close stop closed.rest
        .ok ⟨closed.value, close.rest, by
          have := closed.shorter; have := close.shorter; grind⟩
      else
        .error ⟨.mismatchedClosing opened.written closed.value.written, some t⟩
    else
      .error unclosed

/-- The tokens after a bare inverse tag, if one stands here. -/
def afterInverse? : (ts : List Token) → Option { rest : List Token // rest.length < ts.length }
  | opener :: close :: ts =>
    if opener.kind = .openInverse ∧ close.kind = .close then
      some ⟨ts, by simp only [List.length_cons]; omega⟩
    else none
  | _ => none

/-- Statements up to the end of the template or a closing tag, and in the primary body of a block
also up to a bare inverse tag. -/
def statements (inBody : Bool) (ts : List Token) :
    Except GrammarError (Taken (List Node) (ts.length + 1)) :=
  match ts with
  | [] => .ok ⟨[], [], by simp⟩
  | t :: ts =>
    match t.kind with
    | .openEnd | .eof => .ok ⟨[], t :: ts, by simp⟩
    | .content => do
      let more ← statements inBody ts
      .ok ⟨.content t.text :: more.value, more.rest, by have := more.shorter; grind⟩
    | .comment => do
      let more ← statements inBody ts
      .ok ⟨.comment t.text :: more.value, more.rest, by have := more.shorter; grind⟩
    | .openValue => do
      let first ← head stop ts
      have := first.shorter
      let more ← statements inBody first.rest
      .ok ⟨.insertion first.value.1 first.value.2 :: more.value, more.rest, by
        have := more.shorter; grind⟩
    | .openPartial => do
      let first ← inclusion stop ts
      have := first.shorter
      let more ← statements inBody first.rest
      .ok ⟨first.value :: more.value, more.rest, by have := more.shorter; grind⟩
    | .openBlock => do
      let first ← head stop ts
      have := first.shorter
      let body ← statements true first.rest
      have := body.shorter
      match afterInverse? body.rest with
      | none =>
        let closed ← closing stop t first.value.1 body.rest
        have := closed.shorter
        let more ← statements inBody closed.rest
        .ok ⟨.block first.value.1 first.value.2 (.program body.value) none
          (some (.path closed.value)) false :: more.value, more.rest, by
            have := more.shorter; grind⟩
      | some ⟨after, _⟩ =>
        let inverse ← statements false after
        have := inverse.shorter
        let closed ← closing stop t first.value.1 inverse.rest
        have := closed.shorter
        let more ← statements inBody closed.rest
        .ok ⟨.block first.value.1 first.value.2 (.program body.value)
          (some (.program inverse.value)) (some (.path closed.value)) false :: more.value,
          more.rest, by have := more.shorter; grind⟩
    | .openInverse =>
      if (ts.headD stop).kind = .close then
        if inBody then .ok ⟨[], t :: ts, by simp⟩
        else .error ⟨.inverseOutsideBlock, some t⟩
      else do
        let first ← head stop ts
        have := first.shorter
        let body ← statements false first.rest
        have := body.shorter
        let closed ← closing stop t first.value.1 body.rest
        have := closed.shorter
        let more ← statements inBody closed.rest
        .ok ⟨.block first.value.1 first.value.2 (.program body.value) none
          (some (.path closed.value)) true :: more.value, more.rest, by
            have := more.shorter; grind⟩
    | .close | .word | .separator | .literal => .error ⟨.unexpectedToken t.kind, some t⟩
termination_by ts.length
decreasing_by all_goals grind

/-- A whole template, given by the tokens before its end. -/
def template (ts : List Token) : Except GrammarError Node := do
  let all ← statements stop false ts
  match all.rest with
  | [] => .ok (.program all.value)
  | t :: _ =>
    if t.kind = .openEnd then .error ⟨.closingWithoutBlock, some t⟩
    else .error ⟨.unexpectedToken t.kind, some t⟩

end Parser

/-- The tree of a sequence of tokens. -/
def ofTokens (tokens : List Token) : Except GrammarError Node :=
  match tokens.getLast? with
  | none => .error ⟨.unexpectedEnd, none⟩
  | some last =>
    if last.kind = .eof then
      let stop := (tokens.find? (·.kind = .eof)).getD last
      Parser.template stop (tokens.takeWhile (·.kind ≠ .eof))
    else
      .error ⟨.unexpectedEnd, some last⟩

/-- The tree of a template. -/
def ofTemplate (template : String) : Except GrammarError Node :=
  ofTokens (Token.ofTemplate template)

end Templating.Node
