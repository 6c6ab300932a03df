import CloudSpend.Data.Fault
import CloudSpend.Text.Search

/-! # Arguments of a command -/

namespace CloudSpend.Command

def misuse : Fault := .exit 2

structure Setting where
  name : String
  choices : Option (List String) := none

inductive Word where
  | help
  | overloaded
  | setting (s : Setting) (value : Option String)
  | ambiguous
  | unknown
  | plain

def isDecimal (c : Char) : Bool := (Text.decimalValue? c).isSome

def isNegativeNumber (w : String) : Bool :=
  match w.toList with
  | '-' :: cs =>
    let digits := if cs.getLast? == some '\n' then cs.dropLast else cs
    let whole := digits.takeWhile isDecimal
    match digits.dropWhile isDecimal with
    | [] => !whole.isEmpty
    | '.' :: fraction => !fraction.isEmpty && fraction.all isDecimal
    | _ => false
  | _ => false

def shortHelp (rest : List Char) : Word :=
  match rest.dropWhile (· == 'h') with
  | '-' :: _ | '=' :: _ => .overloaded
  | _ => .help

def longWord (settings : List Setting) (name : String) (value : Option String) : Option Word :=
  let request : Word := if value.isSome then .overloaded else .help
  match settings.find? (fun s => "--" ++ s.name == name), name == "--help" with
  | some s, _ => some (.setting s value)
  | none, true => some request
  | none, false =>
    match settings.filter (fun s => Text.startsWith ("--" ++ s.name) name),
        Text.startsWith "--help" name with
    | [], false => none
    | [], true => some request
    | [s], false => some (.setting s value)
    | _, _ => some .ambiguous

def classify (settings : List Setting) (w : String) : Word :=
  let name := String.ofList (w.toList.takeWhile (· != '='))
  let value := match w.toList.dropWhile (· != '=') with
    | _ :: v => some (String.ofList v)
    | [] => none
  let other : Word := if isNegativeNumber w || w.toList.contains ' ' then .plain else .unknown
  match w.toList with
  | [] | ['-'] => .plain
  | '-' :: '-' :: _ => (longWord settings name value).getD other
  | '-' :: 'h' :: rest => shortHelp rest
  | '-' :: _ => other
  | _ => .plain

def isAmbiguous (settings : List Setting) (w : String) : Bool :=
  match classify settings w with
  | .ambiguous => true
  | _ => false

def isPlain (settings : List Setting) (w : String) : Bool :=
  w != "--" && match classify settings w with
    | .plain => true
    | _ => false

def choose (s : Setting) (value : String) : Result (String × String) :=
  if s.choices.all (·.contains value) then .ok (s.name, value) else .error misuse

def read (settings : List Setting) (stray : Bool) : List String → Result (List (String × String))
  | [] => if stray then .error misuse else .ok []
  | w :: rest =>
    if w == "--" then .error misuse
    else match classify settings w with
      | .help => .error (.exit 0)
      | .overloaded | .ambiguous => .error misuse
      | .setting s (some value) => do
        return (← choose s value) :: (← read settings stray rest)
      | .setting s none =>
        match rest with
        | value :: more => do
          if !isPlain settings value then throw misuse
          return (← choose s value) :: (← read settings stray more)
        | [] => .error misuse
      | .unknown | .plain => read settings true rest

def parse (settings : List Setting) (words : List String) : Result (List (String × String)) :=
  if (words.takeWhile (· != "--")).any (isAmbiguous settings) then .error misuse
  else read settings false words

def value? (chosen : List (String × String)) (name : String) : Option String :=
  Entries.get? chosen.reverse name

end CloudSpend.Command
