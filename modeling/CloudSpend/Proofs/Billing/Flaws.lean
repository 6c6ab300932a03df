import CloudSpend.Proofs.Billing.Records
import CloudSpend.Proofs.Codec.Csv
import CloudSpend.Proofs.Data.JsonParts
import CloudSpend.Proofs.Numeral.Rounding

/-! # Rows that cannot be stored -/

namespace CloudSpend.Billing

open List Charge Entries Json Table Date
open Codec.Csv (IsCell surplusKey)

def cellOr (es : Row) (key : String) (default : Value) : Value := (get? es key).getD default

def IsText (v : Value) : Prop := (∃ s, v = .text s) ∨ v = .null

variable {es : Row}

lemma cellOr_of_isText (P : Value → Prop) (htext : ∀ v, IsText v → P v) (hes : ∀ e ∈ es, IsCell e)
    (key : String) (hkey : key ≠ surplusKey) {default : Value} (hdef : P default) :
    P (cellOr es key default) := by
  unfold cellOr
  cases hget : get? es key with
  | none => exact hdef
  | some v => exact htext v (hes _ (mem_of_get? hget) hkey)

lemma isText_text (s : String) : IsText (.text s) := .inl ⟨s, rfl⟩

namespace Charge

def amountOf (cell : Value) : Float :=
  match cell.toFloat with
  | .ok x => x
  | .error _ => 0

lemma readAmount_of_isText {v : Value} (h : IsText v) : readAmount v = .ok (amountOf v) := by
  rcases h with ⟨s, rfl⟩ | rfl
  · unfold readAmount amountOf Value.toFloat
    dsimp only
    cases Numeral.readFloat? s <;> rfl
  · rfl

lemma readAmount_zero : readAmount (.int 0) = .ok (amountOf (.int 0)) := rfl

lemma exists_rounded_eq (x : Float) : ∃ y, rounded x = .ok y := by
  obtain ⟨y, hy⟩ := Numeral.exists_roundTo?_eq x 6
  exact ⟨y, by rw [rounded, hy]⟩

variable {cell : Value}

lemma exists_word_eq (table : List (String × String)) (h : IsText cell) (default : Value) :
    ∃ v, word table cell default = .ok v := by
  rcases h with ⟨s, rfl⟩ | rfl
  · exact ⟨_, rfl⟩
  · exact ⟨_, rfl⟩

lemma exists_typeOf_eq (table : List (String × String)) (h : IsText cell) :
    ∃ s, typeOf table cell = .ok s := by
  obtain ⟨v, hv⟩ := exists_word_eq table h (.text "Usage")
  exact ⟨v.display, by rw [typeOf, hv]; rfl⟩

end Charge

namespace Cloud

def amountCell : Cloud → Row → Value
  | aws, es => cellOr es "lineItem/UnblendedCost" "0"
  | gcp, es => cellOr es "cost" (.int 0)
  | azure, es => cellOr es "CostInBillingCurrency" (cellOr es "Cost" (.int 0))

def dayCell : Cloud → Row → Value
  | aws, es => cellOr es "lineItem/UsageStartDate" ""
  | gcp, es => cellOr es "usage_start_time" ""
  | azure, es => cellOr es "Date" (cellOr es "UsageDateTime" "")

def noDay : Cloud → String
  | aws => ""
  | gcp | azure => "None"

def start (missing : String) : Value → String
  | .text s => Text.take 10 s
  | _ => missing

def day (c : Cloud) (es : Row) : String := start c.noDay (c.dayCell es)

def tagsCell (es : Row) : Value := cellOr es "Tags" (cellOr es "tags" "")

structure Due (c : Cloud) (es : Row) : Prop where
  amount : isMaterial (amountOf (c.amountCell es)) = true
  day : c.day es ≠ ""

inductive Flawed (c : Cloud) (es : Row) : Prop where
  | day (h : ∀ d, readDay (c.day es) ≠ .ok d)
  | surplus (hcloud : c = .aws) (h : ∃ e ∈ es, e.1 = surplusKey)
  | tags (hcloud : c = .azure) {s : String} {e : Fault} (hcell : tagsCell es = .text s)
      (hread : Json.read s = .error e) (h : e.category ≠ .json)

def tagsOf : Cloud → Row → Result Value
  | aws, es => Aws.tags es >>= fun tags => tagsText (.object tags)
  | gcp, _ => .ok .null
  | azure, es => Azure.tags (tagsCell es) >>= tagsText

lemma getD_object (es : Row) (key : String) (default : Value) :
    (Value.object es).getD key default = .ok (cellOr es key default) := rfl

lemma either_object (es : Row) (first second : String) (default : Value) :
    either (.object es) first second default = .ok (cellOr es first (cellOr es second default)) := rfl

lemma ok_bind {α β : Type} (a : α) (f : α → Result β) : (Except.ok a >>= f) = f a := rfl

variable {cell : Value} {c : Cloud}

lemma dated_aws (h : IsText cell) (rest : Value → Result (Option Charge)) :
    (if !cell.truthy then pure none else cell.take 10 >>= fun day => if !day.truthy then pure none else rest day) =
      if (start "" cell).isEmpty then pure none else rest (.text (start "" cell)) := by
  rcases h with ⟨s, rfl⟩ | rfl
  · have htake : (Value.text s).take 10 = .ok (.text (Text.take 10 s)) := rfl
    rw [htake, ok_bind, start]
    by_cases hs : s = ""
    · subst hs
      rfl
    · simp [Value.truthy, hs]
  · rfl

lemma dayText_of_isText (h : IsText cell) : dayText cell = start "None" cell := by
  rcases h with ⟨s, rfl⟩ | rfl
  · rfl
  · decide

def Charges (c : Cloud) (es : Row) : Prop :=
  ∃ made : Value → Charge, (∀ tags, (made tags).usageDate = .text (c.day es)) ∧
    c.charge (.object es) =
      if isMaterial (amountOf (c.amountCell es)) = true ∧ c.day es ≠ "" then
        (c.tagsOf es).map fun tags => some (made tags)
      else .ok none

lemma charged {material : Bool} {day : String} {tags : Result Value} {charge : Value → Charge}
    {rest : Result (Option Charge)} (hrest : rest = tags.map fun t => some (charge t)) :
    (if !material then pure none else if day.isEmpty then pure none else rest : Result (Option Charge)) =
      if material = true ∧ day ≠ "" then tags.map fun t => some (charge t) else .ok none := by
  rw [hrest]
  cases material with
  | false => rfl
  | true =>
    by_cases hday : day = ""
    · simp [hday, pure, Except.pure]
    · simp [hday]

section Charges

variable (hes : ∀ e ∈ es, IsCell e)
include hes

lemma isText_cellOr (key : String) (hkey : key ≠ surplusKey) (s : String) : IsText (cellOr es key (.text s)) :=
  cellOr_of_isText IsText (fun _ h => h) hes key hkey (isText_text s)

lemma isText_tagsCell : IsText (tagsCell es) :=
  cellOr_of_isText IsText (fun _ h => h) hes "Tags" (by decide) (isText_cellOr hes "tags" (by decide) "")

lemma readAmount_cellOr (key : String) (hkey : key ≠ surplusKey) {default : Value}
    (hdef : readAmount default = .ok (amountOf default)) :
    readAmount (cellOr es key default) = .ok (amountOf (cellOr es key default)) :=
  cellOr_of_isText (fun v => readAmount v = .ok (amountOf v))
    (fun _ => readAmount_of_isText) hes key hkey hdef

lemma charges_aws : aws.Charges es := by
  have htext := isText_cellOr hes
  have hamo := readAmount_of_isText (htext "lineItem/UnblendedCost" (by decide) "0")
  have hday := htext "lineItem/UsageStartDate" (by decide) ""
  obtain ⟨kind, hkind⟩ := exists_typeOf_eq Aws.chargeTypes
    (htext "lineItem/LineItemType" (by decide) "Usage")
  obtain ⟨service, hser⟩ := exists_word_eq Aws.serviceNames
    (htext "lineItem/ProductCode" (by decide) "Unknown") (cellOr es "lineItem/ProductCode" "Unknown")
  obtain ⟨rounded, hrou⟩ := exists_rounded_eq
    (amountOf (cellOr es "lineItem/UnblendedCost" "0"))
  refine ⟨fun tags => {
    provider := "aws"
    accountId := cellOr es "lineItem/UsageAccountId" ""
    service := service
    region := cellOr es "product/region" ""
    resourceId := cellOr es "lineItem/ResourceId" ""
    usageDate := .text (aws.day es)
    chargeType := kind
    amount := rounded
    currency := cellOr es "lineItem/CurrencyCode" "USD"
    tags := tags }, fun _ => rfl, ?_⟩
  unfold charge Aws.charge
  simp only [getD_object, ok_bind, hamo, hkind, hser, dated_aws hday, hrou]
  refine charged ?_
  have hent : (Value.object es).entries = .ok es := rfl
  rw [hent, ok_bind, tagsOf]
  cases Aws.tags es with
  | error e => rfl
  | ok tags => cases tagsText (.object tags) <;> rfl

lemma charges_gcp : gcp.Charges es := by
  have htext := isText_cellOr hes
  have hamo := readAmount_cellOr hes "cost" (by decide) readAmount_zero
  have hday := dayText_of_isText (htext "usage_start_time" (by decide) "")
  obtain ⟨kind, hkind⟩ := exists_typeOf_eq Gcp.chargeTypes (htext "cost_type" (by decide) "regular")
  obtain ⟨rounded, hrou⟩ := exists_rounded_eq (amountOf (cellOr es "cost" (.int 0)))
  have htags : Gcp.tags (cellOr es "labels" (.list [])) = .ok (.object []) := by
    refine cellOr_of_isText (fun v => Gcp.tags v = .ok (.object [])) ?_ hes "labels" (by decide) rfl
    rintro v (⟨s, rfl⟩ | rfl) <;> rfl
  refine ⟨fun tags => {
    provider := "gcp"
    accountId := cellOr es "project.id" (cellOr es "project_id" "")
    service := cellOr es "service.description" (cellOr es "service_description" "Unknown")
    region := cellOr es "location.region" (cellOr es "location_region" "")
    resourceId := cellOr es "resource.name" (cellOr es "resource_name" "")
    usageDate := .text (gcp.day es)
    chargeType := kind
    amount := rounded
    currency := cellOr es "currency" "USD"
    tags := tags }, fun _ => rfl, ?_⟩
  unfold charge Gcp.charge
  simp only [getD_object, either_object, ok_bind, hamo, hkind, hrou, hday, htags]
  exact charged rfl

lemma charges_azure : azure.Charges es := by
  have htext := isText_cellOr hes
  have hamo := readAmount_cellOr hes "CostInBillingCurrency" (by decide)
    (readAmount_cellOr hes "Cost" (by decide) readAmount_zero)
  have hday := dayText_of_isText (cellOr_of_isText IsText (fun _ h => h) hes "Date" (by decide)
    (htext "UsageDateTime" (by decide) ""))
  obtain ⟨kind, hkind⟩ := exists_typeOf_eq Azure.chargeTypes (htext "ChargeType" (by decide) "Usage")
  obtain ⟨rounded, hrou⟩ := exists_rounded_eq
    (amountOf (cellOr es "CostInBillingCurrency" (cellOr es "Cost" (.int 0))))
  refine ⟨fun tags => {
    provider := "azure"
    accountId := cellOr es "SubscriptionId" (cellOr es "SubscriptionGuid" "")
    service := cellOr es "MeterCategory" (cellOr es "ServiceName" "Unknown")
    region := cellOr es "ResourceLocation" (cellOr es "ResourceRegion" "")
    resourceId := cellOr es "ResourceId" (cellOr es "InstanceId" "")
    usageDate := .text (azure.day es)
    chargeType := kind
    amount := rounded
    currency := cellOr es "BillingCurrency" (cellOr es "Currency" "USD")
    tags := tags }, fun _ => rfl, ?_⟩
  unfold charge Azure.charge
  simp only [getD_object, either_object, ok_bind, hamo, hkind, hrou, hday]
  refine charged ?_
  rw [tagsOf, tagsCell]
  cases Azure.tags (cellOr es "Tags" (cellOr es "tags" "")) with
  | error e => rfl
  | ok tags =>
    rw [ok_bind, ok_bind]
    cases tagsText tags <;> rfl

lemma charges_of_isCell (c : Cloud) : c.Charges es := by
  cases c with
  | aws => exact charges_aws hes
  | gcp => exact charges_gcp hes
  | azure => exact charges_azure hes

end Charges

def addTag (found : Row) (e : String × Value) : Result Row :=
  if e.1 == surplusKey then .error (.noAttribute .null "startswith")
  else if Text.startsWith e.1 Aws.tagMark && e.2.truthy then
    .ok (put found (Text.replace e.1 Aws.tagMark "") e.2)
  else .ok found

lemma tags_eq_foldlM (es : Row) : Aws.tags es = es.foldlM addTag [] := rfl

lemma addTag_of_column {e : String × Value} (he : e.1 ≠ surplusKey) (found : Row) :
    addTag found e = .ok (put found (Text.replace e.1 Aws.tagMark "") e.2) ∨ addTag found e = .ok found := by
  unfold addTag
  rw [if_neg (by simpa using he)]
  split
  · exact .inl rfl
  · exact .inr rfl

lemma exists_error_of_surplus (h : ∃ e ∈ es, e.1 = surplusKey) (found : Row) :
    ∃ e, es.foldlM addTag found = .error e := by
  induction es generalizing found with
  | nil => simp at h
  | cons e es ih =>
    rw [foldlM_cons]
    by_cases hsur : e.1 = surplusKey
    · exact ⟨_, by rw [addTag, hsur]; rfl⟩
    have hrest := ih (by simpa [hsur] using h)
    rcases addTag_of_column hsur found with hadd | hadd
    · rw [hadd, ok_bind]
      exact hrest _
    · rw [hadd, ok_bind]
      exact hrest _

lemma exists_foldlM_addTag_eq (h : ∀ e ∈ es, e.1 ≠ surplusKey) (hes : ∀ e ∈ es, IsCell e) {found : Row}
    (hfou : ∀ e ∈ found, IsText e.2) :
    ∃ tags, es.foldlM addTag found = .ok tags ∧ ∀ e ∈ tags, IsText e.2 := by
  induction es generalizing found with
  | nil => exact ⟨found, rfl, hfou⟩
  | cons e es ih =>
    obtain ⟨hcol, h⟩ := forall_mem_cons.mp h
    obtain ⟨he, hes⟩ := forall_mem_cons.mp hes
    rw [foldlM_cons]
    rcases addTag_of_column hcol found with hadd | hadd
    · rw [hadd, ok_bind]
      refine ih h hes fun d hd => ?_
      rcases mem_or_eq_of_mem_put hd with hd | rfl
      · exact hfou d hd
      · exact he hcol
    · rw [hadd, ok_bind]
      exact ih h hes hfou

lemma exists_tagsText_eq {v : Value} {s : String} (h : encode v = .ok s) :
    ∃ text, tagsText v = .ok text := by
  unfold tagsText
  split
  · exact ⟨.text s, by rw [h]; rfl⟩
  · exact ⟨.null, rfl⟩

lemma encode_object_of_isText {tags : Row} (h : ∀ e ∈ tags, IsText e.2) :
    encode (.object tags) = .ok (write (.object tags)) := by
  have hfor : foreign? (.object tags) = none := foreign?_object fun e he => by
    rcases h e he with ⟨s, hs⟩ | hnull
    · simp [hs, foreign?]
    · simp [hnull, foreign?]
  rw [encode, hfor]

theorem exists_tagsOf_azure (hes : ∀ e ∈ es, IsCell e)
    (h : ∀ s e, tagsCell es = .text s → Json.read s = .error e → e.category = .json) :
    ∃ text, azure.tagsOf es = .ok text := by
  have hnone : (Except.ok (.object []) >>= Charge.tagsText : Result Value) = .ok .null := rfl
  rw [tagsOf]
  unfold Azure.tags
  split
  · next tags hcell =>
      have htext := isText_tagsCell hes
      rw [hcell] at htext
      rcases htext with ⟨s, hs⟩ | hnull
      · cases hs
      · cases hnull
  · next s hcell =>
      split
      · exact ⟨.null, hnone⟩
      · split
        · next v hread => exact exists_tagsText_eq (Json.encode_of_read hread)
        all_goals grind
  · exact ⟨.null, hnone⟩

lemma exists_error_of_flawed (h : c.Flawed es) {d : Date} (hday : readDay (c.day es) = .ok d) :
    ∃ e, c.tagsOf es = .error e := by
  cases h with
  | day h => exact absurd hday (h d)
  | surplus hclo h =>
    subst hclo
    obtain ⟨e, he⟩ := exists_error_of_surplus h []
    refine ⟨e, ?_⟩
    rw [tagsOf, tags_eq_foldlM, he]
    rfl
  | tags hclo hcell hread hcat =>
    rename_i s e
    subst hclo
    have hs : s.isEmpty = false := by
      rw [Bool.eq_false_iff]
      intro hemp
      obtain rfl := String.isEmpty_iff.mp hemp
      obtain rfl := Except.error.inj (read_empty.symm.trans hread)
      exact hcat rfl
    have hjson : (e.category == .json) = false := beq_eq_false_iff_ne.mpr hcat
    refine ⟨e, ?_⟩
    rw [tagsOf, hcell, Azure.tags, hs, hread]
    simp only [hjson]
    rfl

lemma flawed_of_tagsOf (hes : ∀ e ∈ es, IsCell e) {e : Fault} (h : c.tagsOf es = .error e) :
    c.Flawed es := by
  cases c with
  | aws =>
    by_contra hflaw
    have hcol : ∀ e ∈ es, e.1 ≠ surplusKey := fun e he hsur => hflaw (.surplus rfl ⟨e, he, hsur⟩)
    obtain ⟨tags, htags, htex⟩ := exists_foldlM_addTag_eq hcol hes (forall_mem_nil _)
    obtain ⟨text, htext⟩ := exists_tagsText_eq (encode_object_of_isText htex)
    rw [tagsOf, tags_eq_foldlM, htags, ok_bind, htext] at h
    cases h
  | gcp => cases h
  | azure =>
    by_contra hflaw
    have hjson : ∀ s e, tagsCell es = .text s → Json.read s = .error e → e.category = .json := by
      intro s e hcell hread
      by_contra hcat
      exact hflaw (.tags rfl hcell hread hcat)
    obtain ⟨text, htext⟩ := exists_tagsOf_azure hes hjson
    rw [htext] at h
    cases h

end Cloud

lemma Table.cell_of_ne {column : String} (hday : column ≠ "usage_date") (hamo : column ≠ "amount") (v : Value) :
    cell column v = .ok v := by
  unfold cell
  split
  · exact absurd rfl hday
  · exact absurd rfl hamo
  · rfl

lemma Charge.cells_toRow {charge : Charge} {d : String} (h : charge.usageDate = .text d) :
    cells (.object charge.toRow) = (readDay d).map fun day =>
      [.text charge.provider, charge.accountId, charge.service, charge.region, charge.resourceId, .date day,
        .text charge.chargeType, .float charge.amount, charge.currency, charge.tags] := by
  have hcel : cells (.object charge.toRow) =
      schema.mapM fun column => cell column (cellOr charge.toRow column .null) := by
    simp only [cells, schema, mapM_cons, mapM_nil]
    rfl
  have hday : cell "usage_date" (cellOr charge.toRow "usage_date" .null) = (readDay d).map .date :=
    congrArg (cell "usage_date") h
  have hamo : cell "amount" (cellOr charge.toRow "amount" .null) = .ok (.float charge.amount) := rfl
  rw [hcel, schema]
  simp only [mapM_cons, mapM_nil, hday, hamo]
  simp (disch := decide) only [cell_of_ne]
  cases readDay d <;> rfl

namespace Cloud

def Fails (c : Cloud) (row : Value) : Prop :=
  (∃ e, c.charge row = .error e) ∨
    ∃ charge e, c.charge row = .ok (some charge) ∧ cells (.object charge.toRow) = .error e

section Outcome

variable {c : Cloud} (hes : ∀ e ∈ es, IsCell e)
include hes

lemma charge_of_not_due (h : ¬c.Due es) : c.charge (.object es) = .ok none := by
  obtain ⟨made, -, hcha⟩ := charges_of_isCell hes c
  rw [hcha, if_neg fun hdue => h ⟨hdue.1, hdue.2⟩]

lemma exists_record_of_due (hdue : c.Due es) (hflaw : ¬c.Flawed es) :
    ∃ charge r, c.charge (.object es) = .ok (some charge) ∧ cells (.object charge.toRow) = .ok r := by
  obtain ⟨made, hdate, hcha⟩ := charges_of_isCell hes c
  rw [if_pos ⟨hdue.amount, hdue.day⟩] at hcha
  cases htags : c.tagsOf es with
  | error e => exact absurd (flawed_of_tagsOf hes htags) hflaw
  | ok tags =>
    cases hday : readDay (c.day es) with
    | error e => exact absurd (.day (by simp [hday])) hflaw
    | ok d =>
      have hcel := cells_toRow (hdate tags)
      rw [hday] at hcel
      exact ⟨made tags, _, by rw [hcha, htags]; rfl, hcel⟩

lemma fails_of_due (hdue : c.Due es) (hflaw : c.Flawed es) : c.Fails (.object es) := by
  obtain ⟨made, hdate, hcha⟩ := charges_of_isCell hes c
  rw [if_pos ⟨hdue.amount, hdue.day⟩] at hcha
  cases htags : c.tagsOf es with
  | error e => exact .inl ⟨e, by rw [hcha, htags]; rfl⟩
  | ok tags =>
    cases hday : readDay (c.day es) with
    | error e =>
      refine .inr ⟨made tags, e, by rw [hcha, htags]; rfl, ?_⟩
      rw [cells_toRow (hdate tags), hday]
      rfl
    | ok d =>
      obtain ⟨e, he⟩ := exists_error_of_flawed hflaw hday
      cases htags.symm.trans he

lemma fails_iff : c.Fails (.object es) ↔ c.Due es ∧ c.Flawed es := by
  constructor
  · intro hfai
    by_cases hdue : c.Due es
    · by_contra hflaw
      obtain ⟨charge, r, hcha, hcel⟩ := exists_record_of_due hes hdue fun h => hflaw ⟨hdue, h⟩
      rcases hfai with ⟨e, he⟩ | ⟨charge', e, hcha', he⟩
      all_goals grind
    · have hnone := charge_of_not_due hes hdue
      rcases hfai with ⟨e, he⟩ | ⟨charge, e, hcha, -⟩
      · cases hnone.symm.trans he
      · cases hnone.symm.trans hcha
  · rintro ⟨hdue, hflaw⟩
    exact fails_of_due hes hdue hflaw

lemma record_isSome_iff : (c.record (.object es)).isSome ↔ c.Due es ∧ ¬c.Flawed es := by
  by_cases hdue : c.Due es
  · by_cases hflaw : c.Flawed es
    · have hnone : c.record (.object es) = none := by
        rcases fails_of_due hes hdue hflaw with ⟨e, he⟩ | ⟨charge, e, hcha, he⟩
        · simp [record, he]
        · simp [record, hcha, he, Except.toOption]
      simp [hnone, hflaw]
    · obtain ⟨charge, r, hcha, hcel⟩ := exists_record_of_due hes hdue hflaw
      simp [record, hcha, hcel, Except.toOption, hdue, hflaw]
  · simp [record, charge_of_not_due hes hdue, hdue]

end Outcome

end Cloud

end CloudSpend.Billing
