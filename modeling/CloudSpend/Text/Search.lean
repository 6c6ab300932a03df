/-! # Parts of texts -/

namespace CloudSpend.Text

def occursIn (part : List Char) : List Char → Bool
  | [] => part.isEmpty
  | c :: cs => part.isPrefixOf (c :: cs) || occursIn part cs

def occurs (part whole : String) : Bool := occursIn part.toList whole.toList

def replaceFrom (part new : List Char) : Nat → List Char → List Char
  | _, [] => []
  | skip + 1, _ :: cs => replaceFrom part new skip cs
  | 0, c :: cs =>
    if part.isPrefixOf (c :: cs) then new ++ replaceFrom part new (part.length - 1) cs
    else c :: replaceFrom part new 0 cs

def replace (s part new : String) : String :=
  String.ofList (replaceFrom part.toList new.toList 0 s.toList)

def splitFrom (part : List Char) : Nat → List Char → List Char → List (List Char)
  | _, current, [] => [current.reverse]
  | skip + 1, current, _ :: cs => splitFrom part skip current cs
  | 0, current, c :: cs =>
    if part.isPrefixOf (c :: cs) then current.reverse :: splitFrom part (part.length - 1) [] cs
    else splitFrom part 0 (c :: current) cs

def split (s part : String) : List String :=
  (splitFrom part.toList 0 [] s.toList).map String.ofList

def splitWhere (p : Char → Bool) (current : List Char) : List Char → List (List Char)
  | [] => [current.reverse]
  | c :: cs =>
    if p c then current.reverse :: splitWhere p [] cs else splitWhere p (c :: current) cs

def startsWith (s start : String) : Bool := start.toList.isPrefixOf s.toList

def endsWith (s ending : String) : Bool := ending.toList.isSuffixOf s.toList

def take (n : Nat) (s : String) : String := String.ofList (s.toList.take n)

def drop (n : Nat) (s : String) : String := String.ofList (s.toList.drop n)

end CloudSpend.Text
