import CloudSpend.Proofs.Analytics.Binding
import CloudSpend.Proofs.Filter.Phrase

/-! # What a valid filter searches for -/

namespace CloudSpend.Analytics

open CloudSpend.Filter CloudSpend.Text

namespace CostQuery

def narrowed (q : CostQuery) (c : String × List Value) : Condition :=
  let days := Analytics.condition (.text q.start) (.text q.stop) (Value.ofText? q.account)
  ⟨days.sql ++ " AND " ++ c.1, days.params ++ c.2⟩

variable {e : Expr}

lemma compile_ne_always {c : String × List Value} (h : e.compile .records [] = .ok c) : c.1 ≠ "1=1" := by
  unfold Expr.compile at h
  split at h
  · cases h
  · cases h
    rw [Expr.sql_eq]
    exact e.text_fragment_ne _ _ _

theorem condition_eq_map_narrowed (q : CostQuery) {f : String} (hf : q.filter = some f)
    (hval : (parse f).isValid = true) (he : (parse f).expression = some e) :
    q.condition = (e.compile .records []).map q.narrowed := by
  have hne : f.isEmpty = false := by
    rw [← Bool.not_eq_true, String.isEmpty_iff]
    rintro rfl
    exact absurd hval (by decide)
  have hcom : (parse f).condition .records = e.compile .records [] := by
    rw [Query.condition, hval, he]
  have hfil : q.filterCondition = (e.compile .records []).map fun c => some ⟨c.1, c.2⟩ := by
    simp only [filterCondition, hf, hne, validate, hval, hcom, Bool.false_eq_true, reduceIte]
    cases hc : e.compile .records [] with
    | error err => rfl
    | ok c =>
      have hsql : (c.1 == "1=1") = false := beq_eq_false_iff_ne.mpr (compile_ne_always hc)
      simp [Except.map, hsql]
  rw [condition, hfil]
  cases e.compile .records [] <;> rfl

end CostQuery

/-- **What a valid filter searches for.** A valid filter that holds a token has an expression. -/
theorem valid_filter_searches (q : CostQuery) (f : String) (hf : q.filter = some f)
    (hvalid : validate f = (true, [])) (hne : tokens (trim f) ≠ .ok []) :
    ∃ e ls, (parse f).expression = some e ∧
      Lexes (trim f).toList ls ∧ charsOf ls = (trim f).toList ∧
      (∀ l ∈ ls, l.token = none →
        ∃ c, l.chars = [c] ∧ (isBlank c = true ∨ opensNothing c = true)) ∧
      parse (spacedText ls) = ⟨spacedText ls, some e, []⟩ ∧
      q.condition = (e.compile .records []).map q.narrowed ∧
      ∀ c, e.compile .records [] = .ok c → c.1 ≠ "1=1" := by
  have hisV := isValid_of_validate hvalid
  obtain ⟨ts, htok, hpar⟩ := parseTokens_of_isValid hisV
  obtain ⟨ls, hls, rfl⟩ := tokens_eq_ok_iff.mp htok
  have hts : tokensOf ls ≠ [] := by
    intro hnil
    rw [htok, hnil] at hne
    exact hne rfl
  obtain ⟨e, he⟩ : ∃ e, (parse f).expression = some e := by
    cases he : (parse f).expression with
    | some e => exact ⟨e, rfl⟩
    | none =>
      rw [he] at hpar
      obtain ⟨t, more, hcons⟩ := List.exists_cons_of_ne_nil hts
      have hfir := head_of_parseTokens_eq_none hpar t (by simp [hcons])
      exact absurd (by simp [hcons, hfir]) hls.eof_notMem
  have hpro : (parse f).problems = [] := List.isEmpty_iff.mp hisV
  refine ⟨e, ls, he, hls, hls.charsOf_eq, hls.chars_of_token_eq_none, ?_,
    q.condition_eq_map_narrowed hf hisV he, fun c => CostQuery.compile_ne_always⟩
  rw [hls.parse_spacedText hts, he, hpro]

def dollarParts : List Lexeme :=
  [⟨"costs.amount".toList, some (.field "costs.amount")⟩, ⟨[' '], none⟩,
    ⟨['>'], some (.operator .gt)⟩, ⟨[' '], none⟩, ⟨['-'], none⟩, ⟨['$'], none⟩,
    ⟨['5'], some (.value (.int 5))⟩]

lemma lexes_dollarParts : Lexes "costs.amount > -$5".toList dollarParts :=
  .take (w := "osts.amount".toList) rfl <| .skip rfl <| .take (w := []) rfl <| .skip rfl <|
    .skip rfl <| .skip rfl <| .take (w := []) rfl .nil

lemma parse_dollarParts : parse "costs.amount > -$5" = ⟨"costs.amount > -$5",
    some (.condition "costs.amount" (.compare .gt (.int 5))), []⟩ := parse_of_valid (by decide +kernel)

/-- The minus sign and the dollar sign count for nothing: the query is for more than five. -/
theorem valid_filter_searches_of_dollar :
    validate "costs.amount > -$5" = (true, []) ∧
      (∃ ls, Lexes (trim "costs.amount > -$5").toList ls ∧
        (parse (spacedText ls)).expression =
          some (.condition "costs.amount" (.compare .gt (.int 5)))) ∧
      (januaryWith "costs.amount > -$5").condition =
        .ok ⟨"usage_date >= ? AND usage_date < ? AND amount > $1",
          [.text "2026-01-01", .text "2026-02-01", .int 5]⟩ := by
  have hval : validate "costs.amount > -$5" = (true, []) := by decide +kernel
  obtain ⟨e, ls, he, hls, -, -, hspa, hcon, -⟩ :=
    valid_filter_searches (januaryWith "costs.amount > -$5") "costs.amount > -$5" rfl hval fun h => by
      have hnone := congrArg Except.toOption h
      revert hnone
      decide +kernel
  rw [parse_dollarParts] at he
  cases he
  refine ⟨hval, ⟨ls, hls, by rw [hspa]⟩, ?_⟩
  rw [hcon]
  rfl

/-- A valid filter can hold characters that are neither blank nor part of a token, and one of nothing
else has no expression. -/
theorem valid_filter_drops_characters :
    (validate "costs.amount > -$5" = (true, []) ∧
      Lexes "costs.amount > -$5".toList dollarParts ∧
      ⟨['-'], none⟩ ∈ dollarParts ∧ ⟨['$'], none⟩ ∈ dollarParts ∧
      isBlank '-' = false ∧ isBlank '$' = false ∧
      (parse "costs.amount > -$5").expression =
        some (.condition "costs.amount" (.compare .gt (.int 5)))) ∧
    (validate ";" = (true, []) ∧ (parse ";").expression = none) := by
  rw [validate, parse_dollarParts]
  exact ⟨⟨rfl, lexes_dollarParts, by simp [dollarParts], by simp [dollarParts], rfl, rfl, rfl⟩, rfl, rfl⟩

end CloudSpend.Analytics
