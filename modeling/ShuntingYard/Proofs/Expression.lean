import Mathlib.Logic.Function.Basic
import ShuntingYard.Operator
import ShuntingYard.Token

/-! Expressions as trees, and their postfix form: operands from left to right, then what applies to
    them. The postfix form needs no parentheses to tell trees apart. Read from left to right with a
    stack of finished trees, it builds its tree again (`rebuild_postorder`), so that no two trees
    have one form (`postorder_injective`). -/

namespace ShuntingYard

/-- An expression. A function has one operand, whatever arity its table gives it. -/
inductive Expression where
  | number (text : String)
  | identifier (text : String)
  | binary (o : Operator) (left right : Expression)
  | application (name : String) (arity : Int) (argument : Expression)
  deriving DecidableEq, Repr

namespace Expression

/-- The tokens of an expression in postfix order. -/
def postorder : Expression → List Token
  | .number text => [.number text]
  | .identifier text => [.identifier text]
  | .binary o left right => left.postorder ++ right.postorder ++ [.operator o.text]
  | .application name arity argument => argument.postorder ++ [.function name arity]

/-- One token of a postfix form, on the trees finished so far, the latest first. -/
def build (finished : List Expression) : Token → List Expression
  | .number text => .number text :: finished
  | .identifier text => .identifier text :: finished
  | .operator text =>
    match Operator.ofText? text, finished with
    | some o, right :: left :: rest => .binary o left right :: rest
    | _, _ => finished
  | .function name arity =>
    match finished with
    | argument :: rest => .application name arity argument :: rest
    | [] => []
  | _ => finished

/-- The trees that a postfix form leaves finished. -/
def rebuild (finished : List Expression) (ts : List Token) : List Expression :=
  ts.foldl build finished

/-- The postfix form of a tree adds the tree to those finished before. -/
theorem rebuild_postorder (e : Expression) : ∀ finished : List Expression,
    rebuild finished e.postorder = e :: finished := by
  induction e with
  | number text => exact fun _ => rfl
  | identifier text => exact fun _ => rfl
  | binary o left right ihl ihr =>
    intro finished
    simp only [rebuild] at ihl ihr
    simp only [rebuild, postorder, List.foldl_append, ihl, ihr, List.foldl_cons, List.foldl_nil,
      build, Operator.ofText?_text]
  | application name arity argument ih =>
    intro finished
    simp only [rebuild] at ih
    simp only [rebuild, postorder, List.foldl_append, ih, List.foldl_cons, List.foldl_nil, build]

/-- A postfix form belongs to one tree. -/
theorem postorder_injective : Function.Injective postorder := by
  intro e e' h
  have hr : rebuild [] e.postorder = rebuild [] e'.postorder := by rw [h]
  rw [rebuild_postorder, rebuild_postorder] at hr
  exact (List.cons.inj hr).1

end Expression

end ShuntingYard
