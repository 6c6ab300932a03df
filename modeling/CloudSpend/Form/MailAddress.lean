import CloudSpend.Web.Label

/-! # Addresses for electronic mail -/

namespace CloudSpend.Form

open Text

def nameSigns : List Char := "!#$%&'*+-/=?^_`\x7b|\x7d~".toList

def bracketed? (cs : List Char) : Option (List Char) :=
  match trimStart cs, (trimEnd cs).getLast? with
  | '<' :: rest, some '>' =>
    let inner := trimEnd (trimStart (trimEnd rest).dropLast)
    if inner.isEmpty || inner.contains '\n' then none else some inner
  | _, _ => none

def behindQuoted? (cs : List Char) : Option (List Char) :=
  match cs with
  | [] => none
  | c :: rest => (behindQuoted? rest).or (if c == '"' then bracketed? rest else none)

def inBrackets? (cs : List Char) : Option (List Char) :=
  let cs := Text.trimStart cs
  let ok (c : Char) : Bool := Text.isWordChar c || nameSigns.contains c || Text.isBlank c
  match cs with
  | '"' :: _ :: rest => behindQuoted? rest
  | _ =>
    let name := cs.takeWhile (· != '<')
    if name.all ok then bracketed? (cs.drop name.length) else none

def isSafe (cs : List Char) : Bool :=
  cs.all (fun c => isPrintable c && c != ' ') && !(cs.head?.any isMark)

def dotted (ok : Char → Bool) (cs : List Char) : Bool :=
  (splitFrom ['.'] 0 [] cs).all fun part => !part.isEmpty && part.all ok

def isAscii (cs : List Char) : Bool := cs.all (·.toNat < 128)

def isLocal (cs : List Char) : Bool :=
  let ok (c : Char) : Bool := c.isAlphanum || nameSigns.contains c || 128 ≤ c.toNat
  cs.length ≤ 64 && dotted ok cs && (isAscii cs || isSafe cs)

def roleNames : List String :=
  ["info", "marketing", "sales", "support", "abuse", "noc", "security", "postmaster", "hostmaster",
   "usenet", "news", "webmaster", "www", "uucp", "ftp"]

def localForm? (cs : List Char) : Option (List Char) :=
  let form := composed cs
  let small := cs.map Char.toLower
  if !(isLocal cs && isLocal form) then none
  else if roleNames.contains (String.ofList small) then some small
  else some form

def reservedDomains : List String := ["arpa", "invalid", "local", "localhost", "onion", "test"]

def isAsciiLabel (cs : List Char) : Bool := cs.all fun c => c.isAlphanum || c == '-'

def isDomainLabel (cs : List Char) : Bool :=
  !cs.isEmpty && cs.head? != some '-' && cs.getLast? != some '-'
    && ((cs.drop 2).take 2 != ['-', '-'] || cs.take 2 == ['x', 'n'])

def isRegistrable (labels : List (List Char)) : Bool :=
  let top := labels.getLastD []
  2 ≤ labels.length && labels.all (·.length ≤ 63) && (['.'].intercalate labels).length ≤ 253
    && top.getLast?.any Char.isAlpha && !reservedDomains.contains (String.ofList top)

def domainForm? (cs : List Char) : Option (List Char × List Char) := do
  let plain := composed (cs.flatMap Web.plainForm)
  let labels := splitFrom ['.'] 0 [] plain
  guard (isSafe cs && isSafe plain && labels.all isDomainLabel)
  let ascii ← if labels.all isAsciiLabel then some plain else Web.asciiDomain? plain
  let asciiLabels := splitFrom ['.'] 0 [] ascii
  guard (isRegistrable asciiLabels)
  return (ascii, ['.'].intercalate (← asciiLabels.mapM Web.labelMeaning?))

def maxAddress : Nat := 254

def maxAddressText : Nat := 2048

def address? (s : String) : Option String := do
  let cs := s.toList
  guard (cs.length ≤ maxAddressText)
  let address := trimEnd (trimStart ((inBrackets? cs).getD cs))
  let name := address.takeWhile (· != '@')
  guard (name.length < address.length)
  let front ← localForm? name
  let (ascii, domain) ← domainForm? (address.drop (name.length + 1))
  let form := String.ofList (front ++ '@' :: domain)
  guard (!isAscii name || name.length + 1 + ascii.length ≤ maxAddress)
  guard (form.utf8ByteSize ≤ maxAddress)
  return form

end CloudSpend.Form
