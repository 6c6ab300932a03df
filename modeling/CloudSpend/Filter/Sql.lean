import CloudSpend.Filter.Parser
import CloudSpend.Text.Search

/-! # Filters in SQL -/

namespace CloudSpend.Filter

def lastPart (field : String) : String :=
  String.ofList (field.toList.reverse.takeWhile (· != '.')).reverse

def storedFields : List String :=
  ["service", "region", "provider", "account_id", "amount", "currency", "date", "resource_id",
   "category", "charge_type"]

def storedColumn (table field : String) : String :=
  match storedFields.find? fun name => "costs." ++ name == field with
  | some name => table ++ "." ++ name
  | none => table ++ "." ++ lastPart field

def recordColumns : List (String × String) :=
  [("costs.service", "service"), ("costs.region", "region"), ("costs.provider", "provider"),
   ("costs.account_id", "account_id"), ("costs.amount", "amount"), ("costs.currency", "currency"),
   ("costs.date", "usage_date"), ("costs.resource_id", "resource_id"),
   ("costs.charge_type", "charge_type"), ("resources.resource_id", "resource_id"),
   ("resources.service", "service"), ("resources.region", "region"),
   ("resources.provider", "provider"), ("resources.account_id", "account_id")]

def recordColumn (field : String) : String :=
  (recordColumns.lookup field).getD (lastPart field)

def quotedTag? : List Char → Option String
  | [] => none
  | c :: rest =>
    let cs := c :: rest
    let here :=
      if "tag['".toList.isPrefixOf cs then
        let inner := cs.drop 5
        let key := inner.takeWhile (· != '\'')
        if !key.isEmpty && "']".toList.isPrefixOf (inner.drop key.length) then
          some (String.ofList key)
        else none
      else none
    here.or (quotedTag? rest)

def bareTag? : List Char → Option String
  | [] => none
  | c :: rest =>
    let cs := c :: rest
    let here :=
      if "tag[".toList.isPrefixOf cs then
        let inner := cs.drop 4
        let key := inner.takeWhile (· != ']')
        if !key.isEmpty && key.length < inner.length then some (String.ofList key) else none
      else none
    here.or (bareTag? rest)

def tagKey (field : String) : String :=
  ((quotedTag? field.toList).or (bareTag? field.toList)).getD "unknown"

def recordExpression (field : String) : String :=
  if Text.occursIn "tag[".toList field.toList then
    "json_extract_string(tags, '$." ++ tagKey field ++ "')"
  else recordColumn field

/-! ## Filters as SQL conditions -/

def Expr.storedSql (table : String) : Expr → (params : List Value) → String × List Value
  | .condition f (.member negated vs), params =>
    let marks := (List.range vs.length).map fun i => ":p" ++ toString (params.length + i)
    (storedColumn table f ++ (if negated then " NOT IN (" else " IN (")
        ++ ", ".intercalate marks ++ ")",
      params ++ vs.map Literal.toValue)
  | .condition f (.like negated v), params =>
    let params := params ++ [v.toValue]
    (storedColumn table f ++ (if negated then " NOT LIKE :p" else " LIKE :p")
        ++ toString (params.length - 1),
      params)
  | .condition f (.compare op v), params =>
    let params := params ++ [v.toValue]
    (storedColumn table f ++ " " ++ op.text ++ " :p" ++ toString (params.length - 1), params)
  | .logical op l r, params =>
    let (left, params) := l.storedSql table params
    let (right, params) := r.storedSql table params
    ("(" ++ left ++ " " ++ op.text ++ " " ++ right ++ ")", params)
  | .negation e, params =>
    let (inner, params) := e.storedSql table params
    ("NOT (" ++ inner ++ ")", params)

def Expr.recordSql : Expr → (params : List Value) → String × List Value
  | .condition f (.member negated vs), params =>
    let marks := (List.range vs.length).map fun i => "$" ++ toString (params.length + i + 1)
    (recordExpression f ++ (if negated then " NOT IN (" else " IN (")
        ++ ", ".intercalate marks ++ ")",
      params ++ vs.map Literal.toValue)
  | .condition f (.like negated v), params =>
    let params := params ++ [v.toValue]
    (recordExpression f ++ (if negated then " NOT LIKE $" else " LIKE $")
        ++ toString params.length,
      params)
  | .condition f (.compare op v), params =>
    let params := params ++ [v.toValue]
    (recordExpression f ++ " " ++ op.text ++ " $" ++ toString params.length, params)
  | .logical op l r, params =>
    let (left, params) := l.recordSql params
    let (right, params) := r.recordSql params
    ("(" ++ left ++ " " ++ op.text ++ " " ++ right ++ ")", params)
  | .negation e, params =>
    let (inner, params) := e.recordSql params
    ("NOT (" ++ inner ++ ")", params)

inductive Dialect where
  | stored (table : String)
  | records
  deriving Repr, DecidableEq

def Expr.sql (d : Dialect) (e : Expr) (params : List Value) : String × List Value :=
  match d with
  | .stored table => e.storedSql table params
  | .records => e.recordSql params

def maxDepth : Nat := 990

def Expr.compile (d : Dialect) (e : Expr) (params : List Value) (limit : Nat := maxDepth) :
    Result (String × List Value) :=
  if limit < e.depth then .error .tooNested else .ok (e.sql d params)

def Query.condition (d : Dialect) (q : Query) (limit : Nat := maxDepth) :
    Result (String × List Value) :=
  match q.isValid, q.expression with
  | true, some e => e.compile d [] limit
  | _, _ => .ok ("1=1", [])

end CloudSpend.Filter
