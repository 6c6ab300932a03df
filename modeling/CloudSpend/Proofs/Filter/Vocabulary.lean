import CloudSpend.Billing.Table
import CloudSpend.Proofs.Filter.Names

/-! # The vocabulary of filters and the columns of billing records -/

namespace CloudSpend.Filter

open List
open CloudSpend.Billing CloudSpend.Text

def vocabulary : List (String × List String) :=
  [("costs", ["provider", "service", "region", "account_id", "category", "subcategory",
     "resource_id", "amount", "currency", "date", "tag", "charge_type"]),
   ("resources", ["provider", "service", "region", "account_id", "resource_id", "name", "type",
     "state", "tag"]),
   ("financial_commitments", ["provider", "commitment_id", "commitment_type", "service", "region",
     "account_id", "amount", "utilization"]),
   ("tags", ["*"]),
   ("network_flows", ["source_region", "destination_region", "source_vpc", "destination_vpc",
     "service", "amount"])]

inductive IsPart (parts : List String) : String → Prop where
  | listed {part : String} (h : part ∈ parts) : IsPart parts part
  | any {part : String} (h : "*" ∈ parts) : IsPart parts part
  | tag {key : String} (h : "tag" ∈ parts) : IsPart parts ("tag[" ++ key ++ "]")

def IsKnown (f : String) : Prop :=
  ∃ kind ∈ vocabulary, ∃ part, f = kind.1 ++ "." ++ part ∧ IsPart kind.2 part

inductive IsExistingColumn : String → Prop where
  | column {c : String} (h : c ∈ Table.schema) : IsExistingColumn c
  | tag {key : String} (h : '\'' ∉ key.toList) : IsExistingColumn (tagLookup key)

def columnFields : List String :=
  ["costs.provider", "costs.service", "costs.region", "costs.account_id", "costs.resource_id",
   "costs.amount", "costs.currency", "costs.date", "costs.charge_type", "resources.provider",
   "resources.service", "resources.region", "resources.account_id", "resources.resource_id",
   "financial_commitments.provider", "financial_commitments.service",
   "financial_commitments.region", "financial_commitments.account_id",
   "financial_commitments.amount", "network_flows.service", "network_flows.amount"]

inductive IsSearchable : String → Prop where
  | column {f : String} (h : f ∈ columnFields) : IsSearchable f
  | tag {kind key : String} (hkind : kind ∈ ["costs", "resources"])
      (h : IsPlainField (kind ++ "." ++ ("tag[" ++ key ++ "]"))) :
      IsSearchable (kind ++ "." ++ ("tag[" ++ key ++ "]"))
  | bracketed {key : String} (htag : occursIn "tag[".toList ("tags" ++ "." ++ key).toList = true)
      (h : IsPlainField ("tags" ++ "." ++ key)) : IsSearchable ("tags" ++ "." ++ key)
  | namesake {key : String} (htag : occursIn "tag[".toList ("tags" ++ "." ++ key).toList = false)
      (h : lastPart ("tags" ++ "." ++ key) ∈ Table.schema) : IsSearchable ("tags" ++ "." ++ key)

lemma point_not_mem_recordColumn (f : String) : '.' ∉ (recordColumn f).toList := by
  have hcol : ∀ p ∈ recordColumns, '.' ∉ p.2.toList := by decide
  unfold recordColumn
  cases hloo : recordColumns.lookup f with
  | some c => exact hcol (f, c) (Entries.mem_of_get? hloo)
  | none => exact point_not_mem_lastPart f

lemma IsExistingColumn.isRecordColumn {c : String} (h : IsExistingColumn c) : IsRecordColumn c := by
  have hsch : ∀ c ∈ Table.schema, IsIdentifier c := by decide
  cases h with
  | column h => exact .name (hsch c h)
  | tag h => exact .tag h

lemma isExistingColumn_recordExpression_iff (f : String) :
    IsExistingColumn (recordExpression f) ↔
      if occursIn "tag[".toList f.toList then IsPlainField f else recordColumn f ∈ Table.schema := by
  split
  · next htag =>
      have hloo : recordExpression f = tagLookup (tagKey f) := by
        rw [recordExpression, if_pos htag]
        rfl
      refine ⟨fun h => (isRecordColumn_iff f).mp h.isRecordColumn, fun h => ?_⟩
      have hcol := (isRecordColumn_iff f).mpr h
      rw [hloo, isRecordColumn_tagLookup_iff] at hcol
      rw [hloo]
      exact .tag hcol
  · next htag =>
      rw [recordExpression, if_neg htag]
      refine ⟨fun h => ?_, .column⟩
      generalize hc : recordColumn f = c at h
      cases h with
      | column h => exact h
      | tag h =>
        refine absurd ?_ (point_not_mem_recordColumn f)
        rw [hc, toList_tagLookup]
        exact mem_append_left _ (mem_append_left _ (by decide))

lemma recordColumn_tags (key : String) :
    recordColumn ("tags" ++ "." ++ key) = lastPart ("tags" ++ "." ++ key) := by
  have htab : ∀ p ∈ recordColumns, ¬ ['t'] <+: p.1.toList := by decide
  unfold recordColumn
  cases hloo : recordColumns.lookup ("tags" ++ "." ++ key) with
  | none => rfl
  | some c =>
    refine absurd ?_ (htab _ (Entries.mem_of_get? hloo))
    exact ⟨"ags.".toList ++ key.toList, by simp⟩

theorem mem_columnFields_of_recordColumn :
    ∀ kind ∈ vocabulary, ∀ part ∈ kind.2, "*" ∉ kind.2 →
      occursIn "tag[".toList (kind.1 ++ "." ++ part).toList = false ∧
        (recordColumn (kind.1 ++ "." ++ part) ∈ Table.schema →
          kind.1 ++ "." ++ part ∈ columnFields) := by
  decide +kernel

lemma recordColumn_of_mem_columnFields :
    ∀ f ∈ columnFields, (∃ kind ∈ vocabulary, ∃ part ∈ kind.2, f = kind.1 ++ "." ++ part) ∧
      occursIn "tag[".toList f.toList = false ∧ recordColumn f ∈ Table.schema := by
  decide +kernel

variable {cs part : List Char}

lemma occursIn_of_isPrefix (h : part <+: cs) (hpart : part ≠ []) :
    occursIn part cs = true := by
  cases cs with
  | nil => exact absurd (prefix_nil.mp h) hpart
  | cons c cs => simp [occursIn, isPrefixOf_iff_prefix.mpr h]

lemma occursIn_append (h : occursIn part cs = true) (before : List Char) :
    occursIn part (before ++ cs) = true := by
  induction before with
  | nil => exact h
  | cons c before ih => simp [occursIn, ih]

lemma occursIn_tag (kind key : String) :
    occursIn "tag[".toList (kind ++ "." ++ ("tag[" ++ key ++ "]")).toList = true := by
  rw [String.toList_append]
  refine occursIn_append (occursIn_of_isPrefix ⟨key.toList ++ "]".toList, ?_⟩ (by decide)) _
  simp

lemma isSearchable_tags {key : String}
    (h : if occursIn "tag[".toList ("tags" ++ "." ++ key).toList then
      IsPlainField ("tags" ++ "." ++ key) else recordColumn ("tags" ++ "." ++ key) ∈ Table.schema) :
    IsSearchable ("tags" ++ "." ++ key) := by
  split at h
  · next htag => exact .bracketed htag h
  · next htag =>
      rw [recordColumn_tags] at h
      exact .namesake (by simpa using htag) h

theorem isSearchable_iff (f : String) :
    IsKnown f ∧ IsExistingColumn (recordExpression f) ↔ IsSearchable f := by
  rw [isExistingColumn_recordExpression_iff]
  have hstar : ∀ kind ∈ vocabulary, "*" ∈ kind.2 → kind.1 = "tags" := by decide
  have htags : ∀ kind ∈ vocabulary, "tag" ∈ kind.2 ↔ kind.1 ∈ ["costs", "resources"] := by decide
  have hkin : ∀ name ∈ ["costs", "resources", "tags"], ∃ kind ∈ vocabulary, kind.1 = name := by
    decide
  constructor
  · rintro ⟨⟨kind, hkind, part, rfl, hpart⟩, hcol⟩
    cases hpart with
    | listed h =>
      by_cases hany : "*" ∈ kind.2
      · -- the star itself is the name of a tag
        rw [hstar kind hkind hany] at hcol ⊢
        exact isSearchable_tags hcol
      · obtain ⟨htag, hmem⟩ := mem_columnFields_of_recordColumn kind hkind part h hany
        rw [htag] at hcol
        exact .column (hmem hcol)
    | any hany =>
      rw [hstar kind hkind hany] at hcol ⊢
      exact isSearchable_tags hcol
    | tag h =>
      rw [if_pos (occursIn_tag _ _)] at hcol
      exact .tag ((htags kind hkind).mp h) hcol
  · intro h
    cases h with
    | column h =>
      obtain ⟨⟨kind, hkind, part, hpart, rfl⟩, htag, hcol⟩ :=
        recordColumn_of_mem_columnFields f h
      rw [htag]
      exact ⟨⟨kind, hkind, part, rfl, .listed hpart⟩, hcol⟩
    | @tag name key hname hpla =>
      obtain ⟨kind, hkind, rfl⟩ := hkin name (by simp at hname ⊢; tauto)
      rw [if_pos (occursIn_tag _ _)]
      exact ⟨⟨kind, hkind, _, rfl, .tag ((htags kind hkind).mpr hname)⟩, hpla⟩
    | @bracketed key htag hpla =>
      rw [if_pos htag]
      exact ⟨⟨("tags", ["*"]), by decide, key, rfl, .any (by decide)⟩, hpla⟩
    | @namesake key htag hcol =>
      rw [htag, recordColumn_tags]
      exact ⟨⟨("tags", ["*"]), by decide, key, rfl, .any (by decide)⟩, hcol⟩

def namesOf : List Piece → List String
  | [] => []
  | .written _ :: ps => namesOf ps
  | .named s :: ps => s :: namesOf ps
  | .slot _ :: ps => namesOf ps

@[simp] lemma namesOf_append (ps qs : List Piece) : namesOf (ps ++ qs) = namesOf ps ++ namesOf qs := by
  induction ps with
  | nil => rfl
  | cons p ps ih => cases p <;> simp [namesOf, ih]

lemma namesOf_slotList (ns : List Nat) : namesOf (slotList ns) = [] := by
  induction ns using slotList.induct with
  | case1 => rfl
  | case2 n => rfl
  | case3 n ns hne ih =>
    rw [slotList, namesOf, namesOf, ih]
    exact hne

lemma Expr.namesOf_pieces (column : String → String) (e : Expr) (first : Nat) :
    namesOf (e.fragment column first).pieces = e.conditions.map fun c => column c.1 := by
  induction e generalizing first with
  | condition f t =>
    cases t with
    | compare op v => rfl
    | like negated v => rfl
    | member negated vs =>
      simp [fragment, Fragment.pieces, namesOf, namesOf_slotList, conditions]
  | logical op l r ihl ihr =>
    simp [fragment, Fragment.pieces, namesOf, ihl, ihr, conditions]
  | negation e ih => simp [fragment, Fragment.pieces, namesOf, ih, conditions]

lemma Query.namesOf_fragment (d : Dialect) (q : Query) :
    namesOf (q.fragment d).pieces = q.conditions.map fun c => d.column c.1 := by
  unfold fragment conditions
  cases q.searched with
  | none => rfl
  | some e => exact e.namesOf_pieces d.column 0

/-- **The columns that valid filters name.** The fields of valid filters are all names there are, known or not. The
condition over billing records that a filter becomes names what its fields stand for, field by field. -/
theorem valid_filter_columns (f filter : String) :
    ((∃ q, validate q = (true, []) ∧ ∃ t, (f, t) ∈ (parse q).conditions) ↔ IsField f) ∧
      (∀ sql params, (parse filter).condition .records = .ok (sql, params) →
        sql = textOf Dialect.records.slot ((parse filter).fragment .records).pieces) ∧
      namesOf ((parse filter).fragment .records).pieces =
        (parse filter).conditions.map (fun c => recordExpression c.1) ∧
      ((∀ c ∈ (parse filter).conditions, IsKnown c.1 ∧ IsExistingColumn (recordExpression c.1)) ↔
        ∀ c ∈ (parse filter).conditions, IsSearchable c.1) := by
  refine ⟨exists_valid_iff f, fun _ _ h => (Query.of_condition_eq_ok h).1,
    (parse filter).namesOf_fragment .records, ?_⟩
  simp only [isSearchable_iff]

/-- A tag of costs is in the vocabulary, and is looked up. -/
theorem valid_filter_columns_of_tag :
    (parse "costs.tag['team'] = 1").condition .records =
        .ok ("json_extract_string(tags, '$.team') = $1", [.int 1]) ∧
      "json_extract_string(tags, '$.team') = $1" =
        textOf Dialect.records.slot ((parse "costs.tag['team'] = 1").fragment .records).pieces ∧
      namesOf ((parse "costs.tag['team'] = 1").fragment .records).pieces = [tagLookup "team"] ∧
      IsKnown "costs.tag['team']" ∧ IsExistingColumn (tagLookup "team") := by
  have hpar : parse "costs.tag['team'] = 1" = ⟨"costs.tag['team'] = 1",
      some (.condition "costs.tag['team']" (.compare .eq (.int 1))), []⟩ := parse_of_valid (by decide +kernel)
  have hcnd : (parse "costs.tag['team'] = 1").conditions =
      [("costs.tag['team']", .compare .eq (.int 1))] := by
    rw [hpar]
    rfl
  have hcon : (parse "costs.tag['team'] = 1").condition .records =
      .ok ("json_extract_string(tags, '$.team') = $1", [.int 1]) := by
    rw [hpar]
    rfl
  have hpla : IsPlainField "costs.tag['team']" := fun h => absurd h (by decide)
  obtain ⟨-, htext, hnam, hcol⟩ := valid_filter_columns "costs.tag['team']" "costs.tag['team'] = 1"
  rw [hcnd] at hnam hcol
  have hkno := hcol.mpr (by
    rw [forall_mem_singleton]
    exact @IsSearchable.tag "costs" "'team'" (by decide) hpla)
  rw [forall_mem_singleton] at hkno
  exact ⟨hcon, htext _ _ hcon, hnam, hkno⟩

/-- A field of tags is in the vocabulary, and a valid filter searches by it for a column that billing
records do not have; and a filter is valid with a field that the vocabulary does not have. -/
theorem tags_field_names_no_column :
    (validate "tags.env = 'prod'" = (true, []) ∧ IsKnown "tags.env" ∧
      (parse "tags.env = 'prod'").condition .records = .ok ("env = $1", [.text "prod"]) ∧
      recordExpression "tags.env" = "env" ∧ ¬ IsExistingColumn "env") ∧
    (validate "secrets.key = 'prod'" = (true, []) ∧
      ("secrets.key", .compare .eq (.text "prod")) ∈ (parse "secrets.key = 'prod'").conditions ∧
      ¬ IsKnown "secrets.key") := by
  have htags : parse "tags.env = 'prod'" = ⟨"tags.env = 'prod'",
      some (.condition "tags.env" (.compare .eq (.text "prod"))), []⟩ := parse_of_valid (by decide +kernel)
  have hsec : parse "secrets.key = 'prod'" = ⟨"secrets.key = 'prod'",
      some (.condition "secrets.key" (.compare .eq (.text "prod"))), []⟩ := parse_of_valid (by decide +kernel)
  have hkin : ∀ kind ∈ vocabulary, ¬ (kind.1 ++ ".").toList <+: "secrets.key".toList := by decide
  have henv : "env" ∉ Table.schema := by decide
  rw [validate, validate, htags, hsec]
  refine ⟨⟨rfl, ⟨("tags", ["*"]), by decide, "env", rfl, .any (by decide)⟩, rfl, by decide, fun h => ?_⟩,
    rfl, mem_singleton_self _, ?_⟩
  · exact henv ((isExistingColumn_recordExpression_iff "tags.env").mp h)
  · rintro ⟨kind, hkind, part, heq, -⟩
    refine hkin kind hkind ⟨part.toList, ?_⟩
    rw [heq, ← String.toList_append]

end CloudSpend.Filter
