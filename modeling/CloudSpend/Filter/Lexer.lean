import CloudSpend.Data.Arithmetic
import CloudSpend.Filter.Expr
import CloudSpend.Text.Case

/-! # From characters to tokens -/

namespace CloudSpend.Filter

open CloudSpend.Text

def textBody : List Char → List Char × List Char
  | [] => ([], [])
  | '\'' :: rest => ([], rest)
  | '\\' :: c :: rest =>
    let (body, after) := textBody rest
    ('\\' :: c :: body, after)
  | c :: rest =>
    let (body, after) := textBody rest
    (c :: body, after)

def isWordPart (c : Char) : Bool :=
  isWordChar c || c == '_' || c == '.' || c == '[' || c == ']' || c == '\''

def wordBody : (bracketed : Bool) → List Char → List Char × List Char
  | _, [] => ([], [])
  | true, c :: rest =>
    let (body, after) := wordBody (c != ']') rest
    (c :: body, after)
  | false, c :: rest =>
    if isWordPart c then
      let (body, after) := wordBody (c == '[') rest
      (c :: body, after)
    else ([], c :: rest)

def wordToken (word : String) : Token :=
  let capitals := upper word
  if capitals == "AND" then .logical .and
  else if capitals == "OR" then .logical .or
  else if capitals == "NOT" then .negation
  else if capitals == "IN" then .member
  else if capitals == "LIKE" then .like
  else if capitals == "TRUE" then .value (.bool true)
  else if capitals == "FALSE" then .value (.bool false)
  else if capitals == "NULL" then .value .null
  else if word.toList.contains '.' then .field word
  else .value (.text word)

def isNumberPart (c : Char) : Bool := isDigit c || c == '.'

def numberToken (numeral : List Char) : Result Token :=
  let s := String.ofList numeral
  if numeral.contains '.' then (Value.text s).toFloat.map fun x => .value (.float x)
  else (Value.text s).toInt.map fun n => .value (.int n)

def startsNumber : List Char → Bool
  | '-' :: d :: _ => isDigit d
  | c :: _ => isDigit c
  | [] => false

def splitNumber : List Char → List Char × List Char
  | '-' :: rest => ('-' :: rest.takeWhile isNumberPart, rest.dropWhile isNumberPart)
  | rest => (rest.takeWhile isNumberPart, rest.dropWhile isNumberPart)

def splitOperator? : List Char → Option (Comparison × List Char)
  | '!' :: '=' :: rest => some (.ne, rest)
  | '>' :: '=' :: rest => some (.ge, rest)
  | '<' :: '=' :: rest => some (.le, rest)
  | '!' :: rest => some (.bang, rest)
  | '=' :: rest => some (.eq, rest)
  | '<' :: rest => some (.lt, rest)
  | '>' :: rest => some (.gt, rest)
  | _ => none

def step (c : Char) (rest : List Char) : Result (Option Token × List Char) :=
  if isBlank c then .ok (none, rest)
  else if c == '(' then .ok (some .lparen, rest)
  else if c == ')' then .ok (some .rparen, rest)
  else if c == ',' then .ok (some .comma, rest)
  else if c == '\'' then
    let (body, after) := textBody rest
    .ok (some (.value (.text (String.ofList body))), after)
  else match splitOperator? (c :: rest) with
  | some (op, after) => .ok (some (.operator op), after)
  | none =>
    if startsNumber (c :: rest) then
      let (numeral, after) := splitNumber (c :: rest)
      (numberToken numeral).map fun t => (some t, after)
    else if isLetter c || c == '_' then
      let (body, after) := wordBody false (c :: rest)
      .ok (some (wordToken (String.ofList body)), after)
    else .ok (none, rest)

def tokensFrom : (fuel : Nat) → List Char → Result (List Token)
  | _, [] => .ok []
  | 0, _ :: _ => .ok []
  | fuel + 1, c :: rest => do
    let (token, after) ← step c rest
    let more ← tokensFrom fuel after
    return match token with
      | some t => t :: more
      | none => more

def tokens (s : String) : Result (List Token) := tokensFrom s.length s.toList

def tokenize (s : String) : Result (List Token) := (tokens s).map (· ++ [.eof])

def tokenizeValue (v : Value) : Result (List Token) :=
  match v with
  | .text s => tokenize s
  | .list [] | .object [] => .ok [.eof]
  | .list (w :: _) => .error (.noAttribute w.kind "isspace")
  | .object _ => .error (.missingEntry "0")
  | v => .error (.noLength v.kind)

end CloudSpend.Filter
