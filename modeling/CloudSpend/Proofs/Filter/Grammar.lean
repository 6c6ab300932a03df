import CloudSpend.Proofs.Filter.Pieces
import CloudSpend.Proofs.Filter.RoundTrip
import Mathlib.Tactic.MkIffOfInductiveProp

/-! # The grammar of conditions -/

namespace CloudSpend.Filter

open List String Fragment
open CloudSpend.Text

def IsIdentifier (s : String) : Prop :=
  s.toList ≠ [] ∧ ∀ c ∈ s.toList, isWordChar c = true ∨ c = '_'

instance : DecidablePred IsIdentifier := fun s =>
  @instDecidableAnd _ _ inferInstance (decidableBAll _ s.toList)

def tagLookup (key : String) : String := "json_extract_string(tags, '$." ++ key ++ "')"

@[mk_iff isRecordColumn_def]
inductive IsRecordColumn : String → Prop where
  | name {s : String} (h : IsIdentifier s) : IsRecordColumn s
  | tag {key : String} (h : '\'' ∉ key.toList) : IsRecordColumn (tagLookup key)

inductive IsStoredColumn (table : String) : String → Prop where
  | name {s : String} (h : IsIdentifier s) : IsStoredColumn table (table ++ "." ++ s)

def compareOperators : List String := ["=", "!=", ">", "<", ">=", "<=", "LIKE", "NOT LIKE"]

def memberOperators : List String := ["IN", "NOT IN"]

inductive Grammar (column : String → Prop) : List Piece → Prop where
  | always : Grammar column [.written "1=1"]
  | compare {c op : String} (n : Nat) (hc : column c) (hop : op ∈ compareOperators) :
      Grammar column [.named c, .written (" " ++ op ++ " "), .slot n]
  | member {c op : String} (ns : List Nat) (hc : column c) (hop : op ∈ memberOperators) :
      Grammar column (.named c :: .written (" " ++ op ++ " (") :: slotList ns ++ [.written ")"])
  | join {ps qs : List Piece} (op : Connective) (hps : Grammar column ps) (hqs : Grammar column qs) :
      Grammar column (.written "(" :: ps ++ .written (" " ++ op.text ++ " ") :: qs ++ [.written ")"])
  | negate {ps : List Piece} (hps : Grammar column ps) :
      Grammar column (.written "NOT (" :: ps ++ [.written ")"])

def Piece.IsAllowed (column : String → Prop) : Piece → Prop
  | .written s => s ≠ " ! "
  | .named s => column s
  | .slot _ => True

variable {column : String → Prop}

lemma isAllowed_of_mem_slotList (ns : List Nat) : ∀ p ∈ slotList ns, p.IsAllowed column := by
  induction ns using slotList.induct with
  | case1 => simp [slotList]
  | case2 n => simp [slotList, Piece.IsAllowed]
  | case3 n ns hne ih =>
    rw [slotList]
    · simpa [Piece.IsAllowed] using ih
    · exact hne

variable {ps : List Piece} {s key : String}

lemma Grammar.isAllowed (h : Grammar column ps) : ∀ p ∈ ps, p.IsAllowed column := by
  have hcom : ∀ op ∈ compareOperators, " " ++ op ++ " " ≠ " ! " := by decide
  have hmem : ∀ op ∈ memberOperators, " " ++ op ++ " (" ≠ " ! " := by decide
  have hjoin : ∀ op : Connective, " " ++ op.text ++ " " ≠ " ! " := by
    intro op
    cases op <;> decide
  induction h with
  | always => simp [Piece.IsAllowed]
  | compare n hc hop => simpa [Piece.IsAllowed, hc] using hcom _ hop
  | member ns hc hop =>
    simp only [cons_append, mem_cons, mem_append, not_mem_nil, or_false]
    rintro p (rfl | rfl | hp | rfl)
    · exact hc
    · exact hmem _ hop
    · exact isAllowed_of_mem_slotList ns p hp
    · simp [Piece.IsAllowed]
  | join op _ _ ihp ihq =>
    simp only [cons_append, mem_cons, mem_append, not_mem_nil, or_false]
    rintro p (rfl | ((hp | rfl | hp) | rfl))
    · simp [Piece.IsAllowed]
    · exact ihp p hp
    · exact hjoin op
    · exact ihq p hp
    · simp [Piece.IsAllowed]
  | negate _ ih =>
    simp only [cons_append, mem_cons, mem_append, not_mem_nil, or_false]
    rintro p (rfl | hp | rfl)
    · simp [Piece.IsAllowed]
    · exact ih p hp
    · simp [Piece.IsAllowed]

def Expr.conditions : Expr → List (String × Test)
  | .condition f t => [(f, t)]
  | .logical _ l r => l.conditions ++ r.conditions
  | .negation e => e.conditions

def Test.isSupported : Test → Bool
  | .compare .bang _ => false
  | _ => true

lemma Comparison.text_mem_compareOperators {op : Comparison} (h : op ≠ .bang) :
    op.text ∈ compareOperators := by
  revert h
  cases op <;> decide

theorem Expr.grammar_pieces (field : String → String) (e : Expr) (first : Nat)
    (h : ∀ c ∈ e.conditions, c.2.isSupported = true ∧ column (field c.1)) :
    Grammar column (e.fragment field first).pieces := by
  induction e generalizing first with
  | condition f t =>
    obtain ⟨hsup, hcol⟩ := h (f, t) (by simp [conditions])
    cases t with
    | compare op v =>
      refine .compare _ hcol (Comparison.text_mem_compareOperators ?_)
      rintro rfl
      simp [Test.isSupported] at hsup
    | like negated v =>
      exact .compare _ hcol (by cases negated <;> simp [Test.operator, compareOperators])
    | member negated vs =>
      exact .member _ hcol (by cases negated <;> simp [Test.operator, memberOperators])
  | logical op l r ihl ihr =>
    exact .join op (ihl _ fun c hc => h c (mem_append_left _ hc))
      (ihr _ fun c hc => h c (mem_append_right _ hc))
  | negation e ih => exact .negate (ih _ h)

theorem Expr.forall_conditions_of_isAllowed (field : String → String) (e : Expr) (first : Nat)
    (h : ∀ p ∈ (e.fragment field first).pieces, p.IsAllowed column) :
    ∀ c ∈ e.conditions, c.2.isSupported = true ∧ column (field c.1) := by
  induction e generalizing first with
  | condition f t =>
    simp only [conditions, mem_singleton]
    rintro c rfl
    cases t with
    | compare op v =>
      refine ⟨?_, h (.named (field f)) (by simp [fragment, pieces])⟩
      cases op with
      | bang =>
        refine absurd rfl (h (.written " ! ") (mem_cons_of_mem _ ?_))
        exact mem_cons_self
      | eq | ne | gt | lt | ge | le => rfl
    | like negated v => exact ⟨rfl, h (.named (field f)) (by simp [fragment, pieces])⟩
    | member negated vs => exact ⟨rfl, h (.named (field f)) (by simp [fragment, pieces])⟩
  | logical op l r ihl ihr =>
    intro c hc
    rcases mem_append.mp hc with hc | hc
    · exact ihl first (fun p hp => h p (by simp [fragment, pieces, hp])) c hc
    · exact ihr (first + l.literals.length)
        (fun p hp => h p (by simp [fragment, pieces, hp])) c hc
  | negation e ih => exact ih first fun p hp => h p (by simp [fragment, pieces, hp])

lemma point_not_mem_lastPart (f : String) : '.' ∉ (lastPart f).toList := by
  intro h
  simp only [lastPart, toList_ofList, mem_reverse] at h
  simpa using mem_takeWhile_imp h

lemma not_mem_of_isIdentifier (h : IsIdentifier s) {c : Char} (hword : isWordChar c = false)
    (hc : c ≠ '_') : c ∉ s.toList := by
  intro hmem
  rcases h.2 c hmem with h | h
  · simp [hword] at h
  · exact hc h

lemma isStoredColumn_iff (table f : String) :
    IsStoredColumn table (storedColumn table f) ↔ IsIdentifier (lastPart f) := by
  rw [storedColumn_eq]
  refine ⟨fun h => ?_, .name⟩
  generalize hc : table ++ "." ++ lastPart f = c at h
  cases h with
  | @name s h =>
    have hlast : lastPart f = s := by simpa [← toList_inj] using hc
    rwa [hlast]

lemma quote_not_mem_of_quotedTag? {cs : List Char} (h : quotedTag? cs = some key) :
    '\'' ∉ key.toList := by
  induction cs with
  | nil => simp [quotedTag?] at h
  | cons c cs ih =>
    simp only [quotedTag?, Option.or_eq_some_iff] at h
    rcases h with h | ⟨-, h⟩
    · split at h
      · split at h
        · cases h
          intro hmem
          rw [toList_ofList] at hmem
          simpa using mem_takeWhile_imp hmem
        · cases h
      · cases h
    · exact ih h

lemma toList_tagLookup (key : String) :
    (tagLookup key).toList =
      "json_extract_string(tags, '$.".toList ++ key.toList ++ "')".toList := by
  unfold tagLookup
  rw [toList_append, toList_append]

lemma isRecordColumn_tagLookup_iff (key : String) :
    IsRecordColumn (tagLookup key) ↔ '\'' ∉ key.toList := by
  refine ⟨fun h => ?_, .tag⟩
  rcases (isRecordColumn_def _).mp h with h | ⟨key', h, heq⟩
  · have hmem : '(' ∈ "json_extract_string(tags, '$.".toList := by decide
    refine absurd ?_ (not_mem_of_isIdentifier h (c := '(') rfl (by decide))
    rw [toList_tagLookup]
    exact mem_append_left _ (mem_append_left _ hmem)
  · have hkey : key = key' := by
      rw [← toList_inj, toList_tagLookup, toList_tagLookup, append_cancel_right_eq,
        append_cancel_left_eq, toList_inj] at heq
      exact heq
    rwa [hkey]

theorem isRecordColumn_recordColumn_iff (f : String) :
    IsRecordColumn (recordColumn f) ↔ IsIdentifier (lastPart f) := by
  have hcol : ∀ p ∈ recordColumns, IsIdentifier p.2 ∧ IsIdentifier (lastPart p.1) := by decide
  unfold recordColumn
  cases hloo : recordColumns.lookup f with
  | some c =>
    obtain ⟨hc, hf⟩ := hcol (f, c) (Entries.mem_of_get? hloo)
    exact ⟨fun _ => hf, fun _ => .name hc⟩
  | none =>
    refine ⟨fun h => ?_, .name⟩
    rw [Option.getD_none] at h
    rcases (isRecordColumn_def _).mp h with h | ⟨key, h, heq⟩
    · exact h
    · have hmem : '.' ∈ "json_extract_string(tags, '$.".toList := by decide
      refine absurd ?_ (point_not_mem_lastPart f)
      rw [heq, toList_tagLookup]
      exact mem_append_left _ (mem_append_left _ hmem)

def IsPlainField (f : String) : Prop :=
  if occursIn "tag[".toList f.toList then
    quotedTag? f.toList = none → ∀ key ∈ bareTag? f.toList, '\'' ∉ key.toList
  else IsIdentifier (lastPart f)

lemma isRecordColumn_iff (f : String) :
    IsRecordColumn (recordExpression f) ↔ IsPlainField f := by
  unfold recordExpression IsPlainField
  split
  · rw [show "json_extract_string(tags, '$." ++ tagKey f ++ "')" = tagLookup (tagKey f) from rfl,
      isRecordColumn_tagLookup_iff, tagKey]
    cases hquo : quotedTag? f.toList with
    | some key => simpa using quote_not_mem_of_quotedTag? hquo
    | none =>
      cases hbare : bareTag? f.toList with
      | some key => simp
      | none => simp
  · exact isRecordColumn_recordColumn_iff f

def Query.conditions (q : Query) : List (String × Test) := q.searched.elim [] Expr.conditions

theorem Query.grammar_pieces_iff (d : Dialect) (q : Query) :
    Grammar column (q.fragment d).pieces ↔
      ∀ c ∈ q.conditions, c.2.isSupported = true ∧ column (d.column c.1) := by
  unfold fragment conditions
  cases q.searched with
  | none => exact ⟨fun _ => by simp, fun _ => .always⟩
  | some e =>
    exact ⟨fun h => e.forall_conditions_of_isAllowed d.column 0 h.isAllowed,
      fun h => e.grammar_pieces d.column 0 h⟩

/-- **Which filters keep to the grammar.** The condition of a filter, over billing records and over the relational
store, is a text of pieces, with the literals of the filter beside it. -/
theorem condition_grammar_iff (filter table : String) :
    (∀ sql params, (parse filter).condition .records = .ok (sql, params) →
      sql = textOf Dialect.records.slot ((parse filter).fragment .records).pieces ∧
        params = (parse filter).values) ∧
    (Grammar IsRecordColumn ((parse filter).fragment .records).pieces ↔
      ∀ c ∈ (parse filter).conditions, c.2.isSupported = true ∧ IsPlainField c.1) ∧
    (∀ sql params, (parse filter).condition (.stored table) = .ok (sql, params) →
      sql = textOf (Dialect.stored table).slot ((parse filter).fragment (.stored table)).pieces ∧
        params = (parse filter).values) ∧
    (Grammar (IsStoredColumn table) ((parse filter).fragment (.stored table)).pieces ↔
      ∀ c ∈ (parse filter).conditions, c.2.isSupported = true ∧ IsIdentifier (lastPart c.1)) := by
  refine ⟨fun _ _ => Query.of_condition_eq_ok, ?_, fun _ _ => Query.of_condition_eq_ok, ?_⟩
  · rw [Query.grammar_pieces_iff]
    simp only [Dialect.column, isRecordColumn_iff]
  · rw [Query.grammar_pieces_iff]
    simp only [Dialect.column, isStoredColumn_iff]

theorem condition_grammar_of_quoted_key :
    (parse "costs.tag['team'] = 1").condition .records =
        .ok ("json_extract_string(tags, '$.team') = $1", [.int 1]) ∧
      "json_extract_string(tags, '$.team') = $1" =
        textOf Dialect.records.slot ((parse "costs.tag['team'] = 1").fragment .records).pieces ∧
      Grammar IsRecordColumn ((parse "costs.tag['team'] = 1").fragment .records).pieces := by
  have hpar : parse "costs.tag['team'] = 1" = ⟨"costs.tag['team'] = 1",
      some (.condition "costs.tag['team']" (.compare .eq (.int 1))), []⟩ := parse_of_valid (by decide +kernel)
  have hcon : (parse "costs.tag['team'] = 1").condition .records =
      .ok ("json_extract_string(tags, '$.team') = $1", [.int 1]) := by
    rw [hpar]
    rfl
  obtain ⟨htext, hgra, -⟩ := condition_grammar_iff "costs.tag['team'] = 1" "costs"
  refine ⟨hcon, (htext _ _ hcon).1, hgra.mpr ?_⟩
  rw [hpar]
  intro c hc
  rw [mem_singleton.mp hc]
  exact ⟨rfl, fun h => absurd h (by decide)⟩

lemma quote_not_mem_slot (n : Nat) : '\'' ∉ (Dialect.records.slot n).toList := by
  intro h
  have h' : '\'' ∈ Nat.toDigits 10 (n + 1) := by simpa [Dialect.slot] using h
  exact absurd (Numeral.isDigit_of_mem_decimal h') (by decide)

lemma IsRecordColumn.even_count_quote (h : IsRecordColumn s) : s.toList.count '\'' % 2 = 0 := by
  cases h with
  | name h => rw [count_eq_zero.mpr (not_mem_of_isIdentifier h rfl (by decide))]
  | tag h =>
    rw [toList_tagLookup, count_append, count_append, count_eq_zero.mpr h]
    decide

lemma count_quote_slotList (ns : List Nat) :
    (textOf Dialect.records.slot (slotList ns)).toList.count '\'' = 0 := by
  induction ns using slotList.induct with
  | case1 => rfl
  | case2 n => simpa [slotList, Piece.text, count_eq_zero] using quote_not_mem_slot n
  | case3 n ns hne ih =>
    have hslot := count_eq_zero.mpr (quote_not_mem_slot n)
    rw [slotList, textOf_cons, textOf_cons, toList_append, toList_append,
      count_append, count_append, ih]
    · simpa [Piece.text] using hslot
    · exact hne

lemma Grammar.even_count_quote (h : Grammar IsRecordColumn ps) :
    (textOf Dialect.records.slot ps).toList.count '\'' % 2 = 0 := by
  have hop : ∀ op ∈ compareOperators ++ memberOperators, op.toList.count '\'' = 0 := by decide
  induction h with
  | always => decide
  | @compare c op n hc ho =>
    have hslot := count_eq_zero.mpr (quote_not_mem_slot n)
    simpa [Piece.text, hop op (mem_append_left _ ho), hslot] using hc.even_count_quote
  | @member c op ns hc ho =>
    have hslo := count_quote_slotList ns
    simpa [Piece.text, hop op (mem_append_right _ ho), hslo] using hc.even_count_quote
  | join op _ _ ihp ihq =>
    have htext : op.text.toList.count '\'' = 0 := by cases op <;> decide
    simp [Piece.text, htext, Nat.add_mod, ihp, ihq]
  | negate _ ih => simpa [Piece.text] using ih

/-- A key with a quote in it ends the path that it stands in, and the rest of the key becomes part
of the condition. -/
theorem condition_of_key_with_quote :
    (parse "costs.tag[a'b] = 1").condition .records =
        .ok ("json_extract_string(tags, '$.a'b') = $1", [.int 1]) ∧
      ¬ ∃ ps, Grammar IsRecordColumn ps ∧
        textOf Dialect.records.slot ps = "json_extract_string(tags, '$.a'b') = $1" := by
  constructor
  · have hpar : parse "costs.tag[a'b] = 1" = ⟨"costs.tag[a'b] = 1",
        some (.condition "costs.tag[a'b]" (.compare .eq (.int 1))), []⟩ := parse_of_valid (by decide +kernel)
    rw [hpar]
    rfl
  · rintro ⟨ps, hps, htext⟩
    have heven := hps.even_count_quote
    rw [htext] at heven
    exact absurd heven (by decide)

end CloudSpend.Filter
