import CloudSpend.Data.Fault

/-! # The filter language -/

namespace CloudSpend.Filter

inductive Literal where
  | text (s : String)
  | int (n : Int)
  | float (x : Float)
  | bool (b : Bool)
  | null
  deriving Repr, Inhabited, DecidableEq

def Literal.toValue : Literal → Value
  | .text s => .text s
  | .int n => .int n
  | .float x => .float x
  | .bool b => .bool b
  | .null => .null

inductive Comparison where
  | eq | ne | gt | lt | ge | le | bang
  deriving Repr, DecidableEq

def Comparison.text : Comparison → String
  | .eq => "="
  | .ne => "!="
  | .gt => ">"
  | .lt => "<"
  | .ge => ">="
  | .le => "<="
  | .bang => "!"

inductive Connective where
  | and | or
  deriving Repr, DecidableEq

def Connective.text : Connective → String
  | .and => "AND"
  | .or => "OR"

inductive Token where
  | field (name : String)
  | operator (op : Comparison)
  | value (v : Literal)
  | logical (c : Connective)
  | lparen
  | rparen
  | member
  | negation
  | like
  | comma
  | eof
  deriving Repr, Inhabited, DecidableEq

def Token.className : Token → String
  | .field _ => "FIELD"
  | .operator _ => "OPERATOR"
  | .value _ => "VALUE"
  | .logical _ => "LOGICAL"
  | .lparen => "LPAREN"
  | .rparen => "RPAREN"
  | .member => "IN"
  | .negation => "NOT"
  | .like => "LIKE"
  | .comma => "COMMA"
  | .eof => "EOF"

def Token.literal : Token → Literal
  | .field name => .text name
  | .operator op => .text op.text
  | .value v => v
  | .logical c => .text c.text
  | .lparen => .text "("
  | .rparen => .text ")"
  | .member => .text "IN"
  | .negation => .text "NOT"
  | .like => .text "LIKE"
  | .comma => .text ","
  | .eof => .null

/-! ## Filter expressions -/

inductive Test where
  | compare (op : Comparison) (v : Literal)
  | like (negated : Bool) (v : Literal)
  | member (negated : Bool) (vs : List Literal)
  deriving Repr, Inhabited, DecidableEq

def Test.operator : Test → String
  | .compare op _ => op.text
  | .like negated _ => if negated then "NOT LIKE" else "LIKE"
  | .member negated _ => if negated then "NOT IN" else "IN"

def Test.literals : Test → List Literal
  | .compare _ v => [v]
  | .like _ v => [v]
  | .member _ vs => vs

def Test.operand : Test → Value
  | .compare _ v => v.toValue
  | .like _ v => v.toValue
  | .member _ vs => .list (vs.map Literal.toValue)

inductive Expr where
  | condition (field : String) (test : Test)
  | logical (op : Connective) (left right : Expr)
  | negation (e : Expr)
  deriving Repr, Inhabited, DecidableEq

def Expr.literals : Expr → List Literal
  | .condition _ t => t.literals
  | .logical _ l r => l.literals ++ r.literals
  | .negation e => e.literals

def Expr.fields : Expr → List String
  | .condition f _ => [f]
  | .logical _ l r => l.fields ++ r.fields
  | .negation e => e.fields

def Expr.depth : Expr → Nat
  | .condition _ _ => 1
  | .logical _ l r => max l.depth r.depth + 1
  | .negation e => e.depth + 1

def Expr.toValue : Expr → Value
  | .condition f t => .object [("kind", .text "condition"), ("field", .text f),
      ("operator", .text t.operator), ("value", t.operand)]
  | .logical op l r => .object [("kind", .text "logical"), ("operator", .text op.text),
      ("left", l.toValue), ("right", r.toValue)]
  | .negation e => .object [("kind", .text "not"), ("expression", e.toValue)]

/-! ## From expressions to characters -/

def Literal.print : Literal → String
  | .text s => "'" ++ s ++ "'"
  | .int n => toString n
  | .float x => Numeral.text x
  | .bool b => if b then "TRUE" else "FALSE"
  | .null => "NULL"

def printLiterals : List Literal → List String
  | [] => []
  | [v] => [v.print]
  | v :: rest => v.print :: "," :: printLiterals rest

def Test.print : Test → List String
  | .compare op v => [op.text, v.print]
  | .like negated v => (if negated then ["NOT"] else []) ++ ["LIKE", v.print]
  | .member negated vs =>
    (if negated then ["NOT"] else []) ++ ["IN", "("] ++ printLiterals vs ++ [")"]

def Expr.level : Expr → Nat
  | .logical .or _ _ => 0
  | .logical .and _ _ => 1
  | .negation _ => 2
  | .condition _ _ => 3

def parenthesise (required level : Nat) (ts : List String) : List String :=
  if required ≤ level then ts else "(" :: (ts ++ [")"])

def Expr.printTokens : Expr → List String
  | .condition f t => f :: t.print
  | .logical op l r =>
    let level := match op with
      | .or => 0
      | .and => 1
    parenthesise level l.level l.printTokens ++ [op.text]
      ++ parenthesise (level + 1) r.level r.printTokens
  | .negation e => "NOT" :: parenthesise 3 e.level e.printTokens

def Expr.print (e : Expr) : String := " ".intercalate e.printTokens

end CloudSpend.Filter
