import CloudSpend.Text.Character

/-! # Mailboxes -/

namespace CloudSpend.Notification

structure Mailbox where
  name : String
  address : String
  deriving Repr, DecidableEq

namespace Mailbox

structure Reading where
  rest : List Char
  comments : List (List Char)

def endsAtom (c : Char) : Bool := "()<>@,:;.\"[] \t\r\n".toList.contains c

def endsWord (c : Char) : Bool := c != '.' && endsAtom c

def enclosed (close : Char) : List Char → List Char × List Char
  | [] => ([], [])
  | ['\\'] => ([], [])
  | '\\' :: c :: rest =>
    let (text, rest) := enclosed close rest
    (c :: text, rest)
  | c :: rest =>
    if c == close || c == '\r' then ([], rest)
    else
      let (text, rest) := enclosed close rest
      (c :: text, rest)

def comment : Nat → List Char → List Char × List Char
  | _, [] => ([], [])
  | _, ['\\'] => ([], [])
  | depth, '\\' :: c :: rest =>
    let (text, rest) := comment depth rest
    (c :: text, rest)
  | depth, c :: rest =>
    if c == ')' || c == '\r' then
      match depth with
      | 0 => ([], rest)
      | d + 1 => comment d rest
    else if c == '(' then comment (depth + 1) rest
    else
      let (text, rest) := comment depth rest
      (c :: text, rest)

def Reading.afterComment (r : Reading) (rest : List Char) : Reading :=
  let (text, rest) := comment 0 rest
  ⟨rest, r.comments ++ [text]⟩

def skipBlanks : Nat → Reading → List Char × Reading
  | 0, r => ([], r)
  | bound + 1, r =>
    match r.rest with
    | [] => ([], r)
    | c :: rest =>
      if c == ' ' || c == '\t' then
        let (blanks, r) := skipBlanks bound { r with rest }
        (c :: blanks, r)
      else if c == '\n' || c == '\r' then skipBlanks bound { r with rest }
      else if c == '(' then skipBlanks bound (r.afterComment rest)
      else ([], r)

def Reading.blanks (r : Reading) : List Char × Reading := skipBlanks r.rest.length r

def Reading.next (r : Reading) : Reading := r.blanks.2

def words : Nat → Reading → List (List Char) × Reading
  | 0, r => ([], r)
  | bound + 1, r =>
    match r.rest with
    | [] => ([], r)
    | c :: rest =>
      if c == ' ' || c == '\t' || c == '\r' || c == '\n' then words bound { r with rest }
      else if c == '"' then
        let (word, rest) := enclosed '"' rest
        let (more, r) := words bound { r with rest }
        (word :: more, r)
      else if c == '(' then words bound (r.afterComment rest)
      else if endsWord c then ([], r)
      else
        let (more, after) := words bound { r with rest := r.rest.dropWhile (!endsWord ·) }
        (r.rest.takeWhile (!endsWord ·) :: more, after)

def trimmed : List (List Char) → List (List Char)
  | [] => []
  | part :: before => if part.all Text.isBlank then before else part :: before

def withBlanks (blanks : List Char) (parts : List (List Char)) : List (List Char) :=
  if blanks.isEmpty then parts else blanks :: parts

def quotedPart (text : List Char) : List Char :=
  '"' :: text.flatMap (fun c => if c == '"' || c == '\\' then ['\\', c] else [c]) ++ ['"']

def localPart : Nat → List (List Char) → Reading → List (List Char) × Reading
  | 0, parts, r => (parts, r)
  | bound + 1, parts, r =>
    match r.rest with
    | [] => (parts, r)
    | c :: rest =>
      if c == '.' then localPart bound (['.'] :: trimmed parts) (Reading.next { r with rest })
      else if c == '"' then
        let (text, rest) := enclosed '"' rest
        let (blanks, r) := Reading.blanks { r with rest }
        localPart bound (withBlanks blanks (quotedPart text :: parts)) r
      else if endsAtom c then (trimmed parts, r)
      else
        let atom := r.rest.takeWhile (!endsAtom ·)
        let (blanks, r) := Reading.blanks { r with rest := r.rest.dropWhile (!endsAtom ·) }
        localPart bound (withBlanks blanks (atom :: parts)) r

def domain : Nat → List Char → Reading → List Char × Reading
  | 0, text, r => (text, r)
  | bound + 1, text, r =>
    match r.rest with
    | [] => (text, r)
    | c :: rest =>
      if c == ' ' || c == '\t' then domain bound text { r with rest }
      else if c == '(' then domain bound text (r.afterComment rest)
      else if c == '[' then
        let (inside, rest) := enclosed ']' rest
        domain bound (text ++ '[' :: inside ++ [']']) { r with rest }
      else if c == '.' then domain bound (text ++ ['.']) { r with rest }
      else if c == '@' then ([], r)
      else if endsAtom c then (text, r)
      else domain bound (text ++ r.rest.takeWhile (!endsAtom ·))
        { r with rest := r.rest.dropWhile (!endsAtom ·) }

def Reading.address (r : Reading) : List Char × Reading :=
  let r := r.next
  let (parts, r) := localPart r.rest.length [] r
  let before := parts.reverse.flatten
  match r.rest with
  | '@' :: rest =>
    let r := Reading.next { r with rest }
    let (after, r) := domain r.rest.length [] r
    (if after.isEmpty then [] else before ++ '@' :: after, r)
  | _ => (before, r)

def bracketed : Nat → Bool → Reading → List Char × Reading
  | 0, _, r => ([], r)
  | bound + 1, inRoute, r =>
    match r.rest with
    | [] => ([], r)
    | c :: rest =>
      if inRoute then bracketed bound false (domain r.rest.length [] r).2.next
      else if c == '>' then ([], { r with rest })
      else if c == '@' then bracketed bound true (Reading.next { r with rest })
      else if c == ':' then bracketed bound false (Reading.next { r with rest })
      else
        let (address, r) := r.address
        (address, { r with rest := r.rest.drop 1 })

def spaced (words : List (List Char)) : String := " ".intercalate (words.map String.ofList)

def Reading.afterComma (r : Reading) : Reading :=
  let r := r.next
  match r.rest with
  | ',' :: rest => { r with rest }
  | _ => r

mutual

def entry : Nat → List Char → List Mailbox × Reading
  | 0, cs => ([], ⟨cs, []⟩)
  | bound + 1, cs =>
    let start := (Reading.mk cs []).next
    let (name, found) := words start.rest.length start
    let r := found.next
    let word (r : Reading) : List Mailbox :=
      (name.take 1).map fun w => ⟨spaced r.comments, String.ofList w⟩
    let (boxes, r) := match r.rest with
      | [] => (word r, r)
      | c :: rest =>
        if c == '.' || c == '@' then
          let (address, r) := Reading.address ⟨start.rest, r.comments⟩
          ([⟨spaced r.comments, String.ofList address⟩], r)
        else if c == ':' then members bound { r with rest }
        else if c == '<' then
          let (address, r) := bracketed (2 * rest.length + 2) false (Reading.next { r with rest })
          let note := if r.comments.isEmpty then "" else " (" ++ spaced r.comments ++ ")"
          ([⟨spaced name ++ note, String.ofList address⟩], r)
        else if name.isEmpty then ([], { r with rest })
        else (word r, r)
    (boxes, r.afterComma)

def members : Nat → Reading → List Mailbox × Reading
  | 0, r => ([], r)
  | bound + 1, r =>
    match r.rest with
    | [] => ([], r)
    | _ =>
      let r := r.next
      match r.rest with
      | ';' :: rest => ([], { r with rest })
      | cs =>
        let (boxes, r) := entry bound cs
        let (more, r) := members bound r
        (boxes ++ more, r)

end

def first (line : String) : Mailbox :=
  let cs := line.toList
  ((entry (2 * cs.length + 2) cs).1.head?).getD ⟨"", ""⟩

end Mailbox

end CloudSpend.Notification
