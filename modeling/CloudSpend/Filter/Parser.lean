import CloudSpend.Filter.Lexer

/-! # From tokens to expressions -/

namespace CloudSpend.Filter

inductive Problem where
  | empty
  | expectedField (got : Literal)
  | expectedOperator (field : String)
  | expectedClosing
  | unclosedList
  | unexpected (got : Literal)
  | unreadable (why : Fault)

def Problem.message : Problem → String
  | .empty => "Empty query"
  | .expectedField got => "Expected field name, got: " ++ got.toValue.display
  | .expectedOperator field => "Expected operator after field '" ++ field ++ "'"
  | .expectedClosing => "Expected closing parenthesis"
  | .unclosedList => "Unclosed value list"
  | .unexpected got => "Unexpected token: " ++ got.toValue.display
  | .unreadable why => why.message

structure Parsed (α : Type) where
  result : α
  rest : List Token
  problems : List Problem
  nesting : Nat

def current (ts : List Token) : Token := ts.headD .eof

def literalList : List Token → Parsed (List Literal)
  | [] => ⟨[], [], [.unclosedList], 0⟩
  | .rparen :: rest => ⟨[], rest, [], 0⟩
  | .eof :: rest => ⟨[], .eof :: rest, [.unclosedList], 0⟩
  | .comma :: rest => literalList rest
  | t :: rest =>
    let p := literalList rest
    ⟨t.literal :: p.result, p.rest, p.problems, 0⟩

def memberOperand : List Token → Parsed (List Literal)
  | .lparen :: rest => literalList rest
  | ts => ⟨[], ts, [], 0⟩

def conditionTail (field : String) (negated : Bool) : List Token → Parsed Expr
  | .member :: rest =>
    let p := memberOperand rest
    ⟨.condition field (.member negated p.result), p.rest, p.problems, 0⟩
  | .like :: rest =>
    ⟨.condition field (.like negated (current rest).literal), rest.drop 1, [], 0⟩
  | .operator op :: rest =>
    ⟨.condition field (.compare op (current rest).literal), rest.drop 1, [], 0⟩
  | ts => ⟨.condition field (.compare .eq .null), ts, [.expectedOperator field], 0⟩

def condition : List Token → Parsed Expr
  | .field name :: .negation :: rest => conditionTail name true rest
  | .field name :: rest => conditionTail name false rest
  | ts => ⟨.condition "unknown" (.compare .eq .null), ts.drop 1,
      [.expectedField (current ts).literal], 0⟩

mutual

def primary : (fuel : Nat) → List Token → Parsed Expr
  | fuel + 1, .lparen :: rest =>
    let p := disjunction fuel rest
    match p.rest with
    | .rparen :: after => ⟨p.result, after, p.problems, p.nesting + 1⟩
    | after => ⟨p.result, after, p.problems ++ [.expectedClosing], p.nesting + 1⟩
  | _, ts => condition ts

def factor : (fuel : Nat) → List Token → Parsed Expr
  | fuel + 1, .negation :: rest =>
    let p := primary fuel rest
    ⟨.negation p.result, p.rest, p.problems, p.nesting⟩
  | fuel + 1, ts => primary fuel ts
  | 0, ts => condition ts

def conjunctionTail : (fuel : Nat) → Parsed Expr → Parsed Expr
  | fuel + 1, ⟨left, .logical .and :: rest, problems, nesting⟩ =>
    let p := factor fuel rest
    conjunctionTail fuel ⟨.logical .and left p.result, p.rest, problems ++ p.problems,
      max nesting p.nesting⟩
  | _, p => p

def conjunction : (fuel : Nat) → List Token → Parsed Expr
  | fuel + 1, ts => conjunctionTail fuel (factor fuel ts)
  | 0, ts => condition ts

def disjunctionTail : (fuel : Nat) → Parsed Expr → Parsed Expr
  | fuel + 1, ⟨left, .logical .or :: rest, problems, nesting⟩ =>
    let p := conjunction fuel rest
    disjunctionTail fuel ⟨.logical .or left p.result, p.rest, problems ++ p.problems,
      max nesting p.nesting⟩
  | _, p => p

def disjunction : (fuel : Nat) → List Token → Parsed Expr
  | fuel + 1, ts => disjunctionTail fuel (conjunction fuel ts)
  | 0, ts => condition ts

end

def depthFor (n : Nat) : Nat := 6 * n + 6

def maxNesting : Nat := 246

def parseTokens (ts : List Token) (limit : Nat := maxNesting) : Option Expr × List Problem :=
  match ts with
  | [] => (none, [])
  | .eof :: _ => (none, [])
  | ts =>
    let p := disjunction (depthFor ts.length) ts
    if limit < p.nesting then (none, [.unreadable .tooNested])
    else match p.rest with
    | [] => (some p.result, p.problems)
    | .eof :: _ => (some p.result, p.problems)
    | t :: _ => (some p.result, p.problems ++ [.unexpected t.literal])

structure Query where
  raw : String
  expression : Option Expr
  problems : List Problem

def Query.isValid (q : Query) : Bool := q.problems.isEmpty

def Query.errors (q : Query) : List String := q.problems.map Problem.message

def parse (s : String) (limit : Nat := maxNesting) : Query :=
  let body := Text.trim s
  if body.isEmpty then ⟨s, none, [.empty]⟩
  else match tokenize body with
    | .error e => ⟨s, none, [.unreadable e]⟩
    | .ok ts =>
      let (expression, problems) := parseTokens ts limit
      ⟨s, expression, problems⟩

def validate (s : String) : Bool × List String :=
  let q := parse s
  (q.isValid, q.errors)

def parseValue (v : Value) : Result Query :=
  match v with
  | .text s => .ok (parse s)
  | v => if v.truthy then .error (.noAttribute v.kind "strip") else .ok (parse "")

end CloudSpend.Filter
