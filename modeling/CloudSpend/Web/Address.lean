import CloudSpend.Data.Arithmetic
import CloudSpend.Web.Label

/-! # Addresses and hosts -/

namespace CloudSpend.Web

open Text

def percent (c : Char) : Result (List Char) := do
  return (← bytes (String.singleton c)).flatMap fun b =>
    '%' :: (hex 2 b).map Char.toUpper

def isUnreserved (c : Char) : Bool :=
  c.isAlphanum || c == '-' || c == '.' || c == '_' || c == '~'

def escapeAll (signs : List Char) (cs : List Char) : Result (List Char) :=
  let plain (c : Char) : Bool := isUnreserved c || signs.contains c
  if cs.all fun c => plain c || c == '%' then .ok cs
  else do return (← cs.mapM fun c => if plain c then .ok [c] else percent c).flatten

def isHexDigit (c : Char) : Bool :=
  c.isDigit || ('a' ≤ c && c ≤ 'f') || ('A' ≤ c && c ≤ 'F')

def bytePieces : Nat → List Char → List Char → List (Bool × List Char)
  | _, current, [] => [(false, current.reverse)]
  | skip + 1, current, _ :: cs => bytePieces skip current cs
  | 0, current, c :: cs =>
    match c, cs with
    | '%', a :: b :: rest =>
      if isHexDigit a && isHexDigit b then
        (false, current.reverse) :: (true, [c, a, b]) :: bytePieces 2 [] (a :: b :: rest)
      else bytePieces 0 (c :: current) (a :: b :: rest)
    | c, cs => bytePieces 0 (c :: current) cs

def escape (signs : String) (s : String) : Result String := do
  let pieces ← (bytePieces 0 [] s.toList).mapM fun p =>
    if p.1 then .ok p.2 else escapeAll signs.toList p.2
  return String.ofList pieces.flatten

def unescapeFrom : Nat → List Char → List Nat
  | _, [] => []
  | skip + 1, _ :: cs => unescapeFrom skip cs
  | 0, c :: cs =>
    match c, cs with
    | '%', a :: b :: rest =>
      if isHexDigit a && isHexDigit b then
        let digit (d : Char) : Nat := if d.isDigit then d.toNat - 48 else d.toLower.toNat - 87
        (digit a * 16 + digit b) :: unescapeFrom 2 (a :: b :: rest)
      else c.toNat :: unescapeFrom 0 (a :: b :: rest)
    | c, cs => c.toNat :: unescapeFrom 0 cs

def unescape (cs : List Char) : String := ofBytes (unescapeFrom 0 cs)

/-! ## Hosts -/

def dottedParts (cs : List Char) : List (List Char) := splitWhere (· == '.') [] cs

def looksLikeFourParts (cs : List Char) : Bool :=
  let parts := dottedParts cs
  parts.length == 4 && parts.all fun part => !part.isEmpty && part.all Char.isDigit

def isByte (cs : List Char) : Bool :=
  !cs.isEmpty && cs.length ≤ 3 && cs.all Char.isDigit && (cs == ['0'] || cs.head? != some '0')
    && Numeral.digitsValue cs ≤ 255

def isFourParts (cs : List Char) : Bool :=
  let parts := dottedParts cs
  parts.length == 4 && parts.all isByte

def isEighth (cs : List Char) : Bool := !cs.isEmpty && cs.length ≤ 4 && cs.all isHexDigit

def areEighths (parts : List (List Char)) : Bool :=
  let inner := (parts.drop 1).dropLast
  let gaps := (inner.filter List.isEmpty).length
  if gaps == 0 then parts.length == 8 && parts.all isEighth
  else
    let before := parts.takeWhile (!·.isEmpty)
    let after := (parts.reverse.takeWhile (!·.isEmpty)).reverse
    let ends := (if parts.head?.any List.isEmpty then 1 else 0)
      + (if parts.getLast?.any List.isEmpty then 1 else 0)
    gaps == 1 && before.length + after.length + 1 + ends == parts.length
      && before.length + after.length ≤ 7 && before.all isEighth && after.all isEighth

def isEightParts (cs : List Char) : Bool :=
  let number := cs.takeWhile (· != '%')
  let scope := cs.drop number.length
  let parts := splitWhere (· == ':') [] number
  let last := parts.getLastD []
  let whole := if last.contains '.' then
      (if isFourParts last then some (parts.dropLast ++ [['0'], ['0']]) else none)
    else some parts
  (scope.isEmpty || (1 < scope.length && !(scope.drop 1).contains '%'))
    && 3 ≤ parts.length && whole.any fun ps => ps.length ≤ 9 && areEighths ps

def subDelimiters : String := "!$&'()*+,;="

def hostForm (s : String) : Result String :=
  let cs := s.toList
  if cs.isEmpty then .ok ""
  else if looksLikeFourParts cs then
    if isFourParts cs then .ok s else .error (.address ("Invalid IPv4 address: " ++ quoted s))
  else if cs.head? == some '[' && cs.getLast? == some ']' then
    let inner := (cs.drop 1).dropLast
    if isEightParts inner then .ok (String.ofList inner)
    else .error (.address ("Invalid IPv6 address: " ++ quoted s))
  else if cs.all (·.toNat < 128) then
    escape subDelimiters (String.ofList (cs.map Char.toLower))
  else match asciiDomain? (lower s).toList with
    | some name => .ok (String.ofList name)
    | none => .error (.address ("Invalid IDNA hostname: " ++ quoted s))

/-! ## Addresses -/

structure Address where
  scheme : String := ""
  user : String := ""
  host : String := ""
  port : Option Int := none
  path : String := ""
  query : Option String := none
  /-- The place within the answer, behind a number sign. -/
  fragment : Option String := none

namespace Address

def maxLength : Nat := 65536

def isControl (c : Char) : Bool := c.toNat < 32 || c.toNat == 127

def takeScheme (cs : List Char) : String × List Char :=
  let isPart (c : Char) : Bool := c.isAlphanum || c == '+' || c == '.' || c == '-'
  let name := if cs.head?.any Char.isAlpha then cs.takeWhile isPart else []
  match cs.drop name.length with
  | ':' :: rest => (String.ofList name, rest)
  | _ => ("", cs)

def takePart (sign : List Char) (stop : Char → Bool) (cs : List Char) :
    Option (List Char) × List Char :=
  if sign.isPrefixOf cs then
    let rest := cs.drop sign.length
    let part := rest.takeWhile (!stop ·)
    (some part, rest.drop part.length)
  else (none, cs)

def splitAuthority (cs : List Char) : String × String × String :=
  let behind := (cs.reverse.takeWhile (· != '@')).reverse
  let user := (cs.take (cs.length - behind.length)).dropLast
  let bracketed := (behind.reverse.dropWhile (· != ']')).reverse
  let host := if behind.head? == some '[' && !bracketed.isEmpty then bracketed
    else behind.takeWhile (· != ':')
  let port := match behind.drop host.length with
    | ':' :: port => port
    | port => port
  (String.ofList user, String.ofList host, String.ofList port)

def defaultPorts : List (String × Int) :=
  [("ftp", 21), ("http", 80), ("https", 443), ("ws", 80), ("wss", 443)]

def portForm (scheme port : String) : Result (Option Int) :=
  if port.isEmpty then .ok none
  else match Numeral.readInt port with
    | .ok n => .ok (if defaultPorts.lookup scheme == some n then none else some n)
    | .error _ => .error (.address ("Invalid port: " ++ quoted port))

def plainPath (path : String) : String :=
  let parts := (split path "/").foldl (fun (done : List String) part =>
    if part == "." then done
    else if part == ".." then (if done == [""] then done else done.drop 1)
    else part :: done) []
  "/".intercalate parts.reverse

def checkPath (hasScheme hasAuthority : Bool) (path : String) : Result Unit :=
  if hasAuthority then
    if path.isEmpty || startsWith path "/" then .ok ()
    else .error (.address "For absolute URLs, path must be empty or begin with '/'")
  else if startsWith path "//" then
    .error (.address "URLs with no authority component cannot have a path starting with '//'")
  else if startsWith path ":" && !hasScheme then
    .error (.address "URLs with no scheme component cannot have a path starting with ':'")
  else .ok ()

def ofParts (scheme authority path : String) (query fragment : Option String) : Result Address := do
  let (user, host, port) := splitAuthority authority.toList
  let user ← escape (subDelimiters ++ ":") user
  let host ← hostForm host
  let port ← portForm scheme port
  let scheme := String.ofList (scheme.toList.map Char.toLower)
  let hasAuthority := !user.isEmpty || !host.isEmpty || port.isSome
  checkPath (!scheme.isEmpty) hasAuthority path
  let path ← escape (subDelimiters ++ ":/[]@") (if hasAuthority then plainPath path else path)
  let query ← query.mapM (escape (subDelimiters ++ ":/?[]@"))
  let fragment ← fragment.mapM (escape (subDelimiters ++ ":/?#[]@"))
  return { scheme, user, host, port, path, query, fragment }

def read (s : String) : Result Address := do
  let cs := s.toList
  if maxLength < cs.length then throw (.address "URL too long")
  if cs.any isControl then throw (.address "Invalid non-printable ASCII character in URL")
  let (scheme, rest) := takeScheme cs
  let (authority, rest) := takePart ['/', '/'] (fun c => c == '/' || c == '?' || c == '#') rest
  let (path, rest) := takePart [] (fun c => c == '?' || c == '#') rest
  let (query, rest) := takePart ['?'] (· == '#') rest
  let (fragment, _) := takePart ['#'] (fun _ => false) rest
  ofParts scheme (String.ofList (authority.getD [])) (String.ofList (path.getD []))
    (query.map String.ofList) (fragment.map String.ofList)

def authority (a : Address) : String :=
  (if a.user.isEmpty then "" else a.user ++ "@")
    ++ (if a.host.toList.contains ':' then "[" ++ a.host ++ "]" else a.host)
    ++ (match a.port with
      | some n => ":" ++ toString n
      | none => "")

def text (a : Address) : String :=
  (if a.scheme.isEmpty then "" else a.scheme ++ ":")
    ++ (if a.authority.isEmpty then "" else "//" ++ a.authority)
    ++ a.path
    ++ (match a.query with
      | some q => "?" ++ q
      | none => "")
    ++ (match a.fragment with
      | some f => "#" ++ f
      | none => "")

abbrev Params := List (String × List String)

def paramsOf (query : String) : Params :=
  let pairs := (split query "&").filter (!·.isEmpty)
  let plus (cs : List Char) : List Char := cs.map fun c => if c == '+' then ' ' else c
  pairs.foldl (fun (ps : Params) pair =>
    let name := pair.toList.takeWhile (· != '=')
    let value := pair.toList.drop (name.length + 1)
    Entries.alter ps (unescape (plus name)) [] (· ++ [unescape (plus value)])) []

def paramText (v : Value) : String :=
  match v with
  | .null => ""
  | .bool b => if b then "true" else "false"
  | v => v.display

def paramsOfRow (row : Row) : Params :=
  row.map fun p => (p.1, match p.2 with
    | .list vs => vs.map paramText
    | v => [paramText v])

def queryOf (ps : Params) : Result String := do
  let parts ← (ps.flatMap fun p => p.2.map fun v => (p.1, v)).mapM fun (name, value) => do
    return (← escapeAll [] name.toList) ++ '=' :: (← escapeAll [] value.toList)
  return "&".intercalate (parts.map String.ofList)

def withParams (a : Address) (row : Row) : Result Address := do
  let ps := Entries.merge (paramsOf (a.query.getD "")) (paramsOfRow row)
  let query ← if ps.isEmpty then pure none else some <$> queryOf ps
  let tooLong (name text : String) : Result Unit :=
    if maxLength < text.length then .error (.address ("URL component '" ++ name ++ "' too long"))
    else .ok ()
  tooLong "scheme" a.scheme
  tooLong "authority" a.authority
  tooLong "path" a.path
  tooLong "query" (query.getD "")
  tooLong "fragment" (a.fragment.getD "")
  ofParts a.scheme a.authority a.path query a.fragment

def target (address : String) (params : Row) : Result (String × Params) := do
  let a ← read address
  let path := String.ofList ('/' :: a.path.toList.dropWhile (· == '/'))
  let whole ← (← ofParts "http" "service" path a.query none).withParams params
  return (unescape whole.path.toList, paramsOf (whole.query.getD ""))

end Address

end CloudSpend.Web
