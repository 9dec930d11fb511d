import Templating.Path

/-!
# Template trees

A template is a tree of statements: text, comments, insertions, blocks and inclusions of partials.
Paths and literals are expressions. Trees need not come from the parser, so the type lets any node
stand in any place; a node of a foreign kind is one that no operation knows.
-/

namespace Templating

/-- A node of a template tree. -/
inductive Node where
  /-- Statements in the order of their output. -/
  | program (statements : List Node)
  /-- Text that is output as it is. -/
  | content (text : String)
  /-- A remark that is never output. -/
  | comment (text : String)
  /-- The value of a path, or the result of a helper, with parameters. -/
  | insertion (path : Path) (params : List Node)
  /-- A section: a body that is rendered as a helper or a value decides, with an inverse part or
  none. An inverted section keeps its body as `body`. `closing` is the path of the closing tag. -/
  | block (path : Path) (params : List Node) (body : Node) (inverse : Option Node)
      (closing : Option Node) (inverted : Bool)
  /-- A partial template, rendered in the current frame or in a frame of its own. -/
  | inclusion (name : String) (context : Option Node)
  /-- A path as an expression. -/
  | path (path : Path)
  /-- A string literal. -/
  | literal (value : String)
  /-- A node of an unknown kind. -/
  | foreign (kind : String)
deriving Repr

namespace Node

mutual

/-- Decides whether two trees are equal. -/
def decEq : (m n : Node) → Decidable (m = n)
  | .program xs, n => match n with
    | .program ys => @decidable_of_iff _ (xs = ys) (by simp) (decEqList xs ys)
    | .content _ | .comment _ | .insertion _ _ | .block _ _ _ _ _ _ | .inclusion _ _
    | .path _ | .literal _ | .foreign _ => isFalse nofun
  | .content s, n => match n with
    | .content t => decidable_of_iff (s = t) (by simp)
    | .program _ | .comment _ | .insertion _ _ | .block _ _ _ _ _ _ | .inclusion _ _
    | .path _ | .literal _ | .foreign _ => isFalse nofun
  | .comment s, n => match n with
    | .comment t => decidable_of_iff (s = t) (by simp)
    | .program _ | .content _ | .insertion _ _ | .block _ _ _ _ _ _ | .inclusion _ _
    | .path _ | .literal _ | .foreign _ => isFalse nofun
  | .insertion p xs, n => match n with
    | .insertion q ys => 
      have := decEqList xs ys
      decidable_of_iff (p = q ∧ xs = ys) (by simp)
    | .program _ | .content _ | .comment _ | .block _ _ _ _ _ _ | .inclusion _ _ | .path _
    | .literal _ | .foreign _ => isFalse nofun
  | .block p xs m i c b, n => match n with
    | .block q ys n j d e => 
      have := decEqList xs ys
      have := decEq m n
      have := decEqOption i j
      have := decEqOption c d
      decidable_of_iff (p = q ∧ xs = ys ∧ m = n ∧ i = j ∧ c = d ∧ b = e) (by simp)
    | .program _ | .content _ | .comment _ | .insertion _ _ | .inclusion _ _ | .path _
    | .literal _ | .foreign _ => isFalse nofun
  | .inclusion s c, n => match n with
    | .inclusion t d => 
      have := decEqOption c d
      decidable_of_iff (s = t ∧ c = d) (by simp)
    | .program _ | .content _ | .comment _ | .insertion _ _ | .block _ _ _ _ _ _ | .path _
    | .literal _ | .foreign _ => isFalse nofun
  | .path p, n => match n with
    | .path q => decidable_of_iff (p = q) (by simp)
    | .program _ | .content _ | .comment _ | .insertion _ _ | .block _ _ _ _ _ _
    | .inclusion _ _ | .literal _ | .foreign _ => isFalse nofun
  | .literal s, n => match n with
    | .literal t => decidable_of_iff (s = t) (by simp)
    | .program _ | .content _ | .comment _ | .insertion _ _ | .block _ _ _ _ _ _
    | .inclusion _ _ | .path _ | .foreign _ => isFalse nofun
  | .foreign s, n => match n with
    | .foreign t => decidable_of_iff (s = t) (by simp)
    | .program _ | .content _ | .comment _ | .insertion _ _ | .block _ _ _ _ _ _
    | .inclusion _ _ | .path _ | .literal _ => isFalse nofun

/-- Decides whether two lists of trees are equal. -/
def decEqList : (xs ys : List Node) → Decidable (xs = ys)
  | [], [] => isTrue rfl
  | [], _ :: _ | _ :: _, [] => isFalse nofun
  | x :: xs, y :: ys =>
    have := decEq x y
    have := decEqList xs ys
    decidable_of_iff (x = y ∧ xs = ys) (by simp)

/-- Decides whether two optional trees are equal. -/
def decEqOption : (m n : Option Node) → Decidable (m = n)
  | none, none => isTrue rfl
  | none, some _ | some _, none => isFalse nofun
  | some m, some n =>
    have := decEq m n
    decidable_of_iff (m = n) (by simp)

end

instance : DecidableEq Node := decEq

instance : Inhabited Node := ⟨.program []⟩

/-- Whether a node is an expression: a path or a literal. -/
def isExpression : Node → Bool
  | .path _ | .literal _ => true
  | _ => false

/-- Whether a node is a path. -/
def isPath : Node → Bool
  | .path _ => true
  | _ => false

mutual

/-- Whether a node is a statement whose parts are all of the sort their places call for: parameters
are expressions, bodies are programs, contexts and closing paths are paths. -/
def isStatement : Node → Bool
  | .content _ | .comment _ => true
  | .insertion _ params => params.all isExpression
  | .block _ params body inverse closing _ =>
    params.all isExpression && body.isProgram &&
      (match inverse with
        | none => true
        | some inverse => inverse.isProgram) &&
      closing.all isPath
  | .inclusion _ context => context.all isPath
  | .program _ | .path _ | .literal _ | .foreign _ => false

/-- Whether a node is a program of such statements. -/
def isProgram : Node → Bool
  | .program statements => areStatements statements
  | _ => false

/-- Whether all nodes of a list are such statements. -/
def areStatements : List Node → Bool
  | [] => true
  | n :: ns => n.isStatement && areStatements ns

end

end Node

end Templating
