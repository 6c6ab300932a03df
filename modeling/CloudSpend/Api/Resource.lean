import CloudSpend.Api.Endpoint

/-! # Resources -/

namespace CloudSpend.Api

open Handler
open Store (Table cell holds)

structure Page where
  number : Int
  limit : Int

namespace Page

def address (base : String) (p : Page) : String :=
  base ++ "?page=" ++ toString p.number ++ "&limit=" ++ toString p.limit

def links (base : String) (p : Page) (total : Int) : List (String × String) :=
  ("self", p.address base)
    :: (if p.number * p.limit < total then [("next", { p with number := p.number + 1 }.address base)]
        else [])
    ++ (if 1 < p.number then [("prev", { p with number := p.number - 1 }.address base)] else [])

def linksOf (base number limit total : Value) : Result Row := do
  let link (n : Value) : Value :=
    .text (base.display ++ "?page=" ++ n.display ++ "&limit=" ++ limit.display)
  let mut links : Row := [("self", link number)]
  if ← (← number.mul limit).lt total then links := links ++ [("next", link (← number.add (.int 1)))]
  if ← number.gt (.int 1) then links := links ++ [("prev", link (← number.sub (.int 1)))]
  return links

def offset (p : Page) : Int := (p.number - 1) * p.limit

def select {α : Type} (p : Page) (items : List α) : List α :=
  let rest := items.drop p.offset.toNat
  if p.limit < 0 then rest else rest.take p.limit.toNat

end Page

structure Link where
  field : String
  table : Table
  column : String

inductive Shown where
  | cell (name : String) (shape : Form.Shape) (instead : Option Value)
  | token (link : Link)

structure Revision where
  form : List Form.Field
  keepsNull : Bool
  links : List Link := []

structure Resource where
  table : Table
  plural : String
  kind : Option String
  parent : Link
  form : List Form.Field
  links : List Link := []
  noted : Bool := false
  shown : List Shown
  repeated : List String := []
  canShow : Bool := true
  revision : Option Revision := none
  deleted : Option String := none

namespace Shown

def plain (name : String) (shape : Form.Shape) : Shown := .cell name shape none

def text (name : String) : Shown := plain name .anyText

def text? (name : String) : Shown := plain name (.optional .anyText)

def day? (name : String) : Shown := plain name (.optional .date)

def created : Shown := plain "created_at" .timestamp

def field : Shown → Form.Field
  | .cell name shape _ => Form.required name shape
  | .token link => Form.required link.field (.optional .anyText)

def read (row : Row) : Shown → Handler (String × Value)
  | .cell name _ none => return (name, Store.cell row name)
  | .cell name _ (some v) => return (name, (Store.cell row name).orElse v)
  | .token link => do
    let target ← find? link.table "id" (Store.cell row link.column)
    return (link.field, ((target.map fun t => Store.cell t "token").getD .null))

end Shown

def describe (shown : List Shown) (row : Row) : Handler Value := do
  liftM ((Form.Shape.record (shown.map Shown.field)).validate (.object (← shown.mapM (·.read row))))

def paged (t : Table) (test : Row → Bool) (page : Page) : Handler (List Row × Nat) := do
  requireStorable [("limit", .int page.limit), ("offset", .int page.offset)]
  let rows ← Handler.rows t test
  return (← liftM (t.readable (page.select rows)), rows.length)

def listing (t : Table) (plural : String) (shown : List Shown) (test : Row → Bool) (c : Call) :
    Handler Value := do
  let page : Page := ⟨(c.arg "page").int?.getD 1, (c.arg "limit").int?.getD 25⟩
  let (rows, total) ← paged t test page
  return .object [(plural, .list (← rows.mapM (describe shown))),
    ("links", .object ((page.links ("/v2/" ++ plural) total).map fun l => (l.1, .text l.2)))]

def pageFields : List Form.Field :=
  [Form.withDefault "page" (.int none none) (.int 1),
   Form.withDefault "limit" (.int none none) (.int 25)]

def done (message : String) : Value := .object [("message", .text message)]

namespace Resource

def path (r : Resource) : String := "/api/v2/" ++ r.plural

def find (r : Resource) (c : Call) : Handler Row := byToken r.table (.text c.param)

def list (r : Resource) (c : Call) : Handler Value := do
  let token := c.arg r.parent.field
  if token.truthy then
    let parent ← byToken r.parent.table token
    listing r.table r.plural r.shown (holds r.parent.column (cell parent "id")) c
  else listing r.table r.plural r.shown (fun _ => true) c

def follow (c : Call) (l : Link) : Handler (String × Value) := do
  let token := c.field l.field
  if token.truthy then return (l.column, cell (← byToken l.table token) "id")
  else return (l.column, .null)

def plainCells (form : List Form.Field) (links : List Link) (c : Call) : Row :=
  (form.filter fun f => !links.any fun l => l.field == f.1).map fun f => (f.1, c.field f.1)

def create (r : Resource) (c : Call) : Handler Value := do
  let parent ← byToken r.parent.table (c.field r.parent.field)
  let linked ← r.links.mapM (follow c)
  let token ← match r.kind with
    | some kind => do pure [("token", .text (← newToken (Access.resourceToken kind)))]
    | none => pure []
  let author := if r.noted then [("created_by", cell c.user "id")] else []
  let row ← insert r.table (token ++ [(r.parent.column, cell parent "id")] ++ linked
    ++ plainCells r.form r.links c ++ author)
  let answer ← describe r.shown row
  return .object ((answer.object?.getD []).map fun e =>
    if r.repeated.contains e.1 then (e.1, c.field e.1) else e)

def relink (keepsNull : Bool) (c : Call) (l : Link) : Handler Row := do
  let token := c.field l.field
  if keepsNull then
    if token.isNull then return []
    else return [(l.column, cell (← byToken l.table token) "id")]
  else if c.given.contains l.field then return [← follow c l]
  else return []

def change (r : Resource) (v : Revision) (c : Call) : Handler Value := do
  let row ← r.find c
  let linked ← v.links.mapM (relink v.keepsNull c)
  let plain := (plainCells v.form v.links c).filter fun e =>
    if v.keepsNull then !e.2.isNull else c.given.contains e.1
  describe r.shown (← update r.table row (linked.flatten ++ plain))

def delete (r : Resource) (message : String) (c : Call) : Handler Value := do
  Handler.delete r.table (← r.find c)
  return done message

def endpoints (r : Resource) : List Endpoint :=
  let one := r.path ++ "/:token"
  [{ method := "GET", path := r.path, signedIn := true,
     query := Form.maybe r.parent.field .anyText :: pageFields, run := r.list },
   { method := "POST", path := r.path, signedIn := true, status := 201,
     body := some (.record (Form.required r.parent.field .anyText :: r.form)), run := r.create }]
  ++ (if r.canShow then
      [{ method := "GET", path := one, signedIn := true,
         run := fun c => do describe r.shown (← r.find c) }] else [])
  ++ (r.revision.toList.map fun v =>
      { method := "PUT", path := one, signedIn := true, body := some (.record v.form),
        run := r.change v })
  ++ (r.deleted.toList.map fun message =>
      { method := "DELETE", path := one, signedIn := true, run := r.delete message })

end Resource

end CloudSpend.Api
