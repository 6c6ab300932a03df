import CloudSpend.Proofs.Filter.Grammar
import CloudSpend.Proofs.Filter.Phrase

/-! # Where the operands of an accepted filter come from -/

namespace CloudSpend.Filter

open List

def Token.isValue : Token → Bool
  | .value _ => true
  | _ => false

structure Clause.IsSound (c : Clause) : Prop where
  operator_mem : c.test.operator ∈ compareOperators ++ memberOperators
  operands_ne_nil : c.asked.operands ≠ []
  isValue : ∀ t ∈ c.asked.operands, t.isValue = true

lemma Test.operator_mem_iff (t : Test) :
    t.operator ∈ compareOperators ++ memberOperators ↔ t.isSupported = true := by
  cases t with
  | compare op v =>
    have hop : ∀ op : Comparison, op.text ∈ compareOperators ++ memberOperators ↔ op ≠ .bang := by
      intro op
      cases op <;> decide
    rw [operator, hop]
    cases op <;> simp [isSupported]
  | like negated v => cases negated <;> simp [operator, isSupported, compareOperators]
  | member negated vs => cases negated <;> simp [operator, isSupported, memberOperators]

lemma Phrase.conditions_expr (p : Phrase) :
    p.expr.conditions = p.clauses.map fun c => (c.field, c.test) := by
  induction p with
  | clause c => rfl
  | enclosed p ih => exact ih
  | negation p ih => exact ih
  | joined op l r ihl ihr => simp [expr, clauses, Expr.conditions, ihl, ihr]

def listGiven : List Token → Bool
  | .lparen :: rest =>
    let items := rest.takeWhile fun t => !t.endsList
    items.any Token.isValue && items.all fun t => t.isValue || t.isComma
  | _ => false

def operandsGiven : List Token → Bool
  | [] => true
  | .operator op :: rest => op != .bang && rest.head?.any Token.isValue && operandsGiven rest
  | .like :: rest => rest.head?.any Token.isValue && operandsGiven rest
  | .member :: rest => listGiven rest && operandsGiven rest
  | _ :: rest => operandsGiven rest

def Token.endsCondition : Token → Bool
  | .rparen | .logical _ | .eof => true
  | _ => false

lemma operandsGiven_append_of_items {items : List Token}
    (h : ∀ t ∈ items, (t.isValue || t.isComma) = true) (after : List Token) :
    operandsGiven (items ++ after) = operandsGiven after := by
  induction items with
  | nil => rfl
  | cons t items ih =>
    have hmore := ih fun u hu => h u (mem_cons_of_mem _ hu)
    have ht := h t mem_cons_self
    cases t with
    | value v => exact hmore
    | comma => exact hmore
    | field | operator | logical | lparen | rparen | member | negation | like | eof => cases ht

lemma listGiven_iff (items : Items) (after : List Token) :
    listGiven (.lparen :: (items.tokens ++ .rparen :: after)) = true ↔
      (Asked.member (some items)).operands ≠ [] ∧
        ∀ t ∈ (Asked.member (some items)).operands, t.isValue = true := by
  have htake : ((items.tokens ++ .rparen :: after).takeWhile fun t => !t.endsList) =
      items.tokens := by
    rw [takeWhile_append_of_pos fun t ht => by simp [items.endsList_eq_false t ht]]
    simp [Token.endsList]
  have hval : ∀ t : Token, t.isValue = true → t.isComma = false := by
    intro t ht
    cases t with
    | comma => cases ht
    | field | operator | value | logical | lparen | rparen | member | negation | like | eof => rfl
  simp only [listGiven, htake, Asked.operands, Bool.and_eq_true, any_eq_true, all_eq_true,
    ne_eq, filter_eq_nil_iff, mem_filter, Bool.not_eq_true', not_forall, not_not,
    Bool.or_eq_true]
  grind

variable {after : List Token}

lemma operandsGiven_operand (operand : Option Token) (haft : ∀ t ∈ after.head?, t.endsCondition = true) :
    ((operand.toList ++ after).head?.any Token.isValue && operandsGiven (operand.toList ++ after)) =
        true ↔
      (operand.getD .eof).isValue = true ∧ operandsGiven after = true := by
  cases operand with
  | some t => cases t <;> simp [Token.isValue, operandsGiven]
  | none =>
    cases after with
    | nil => simp [Token.isValue]
    | cons t after =>
      have ht := haft t (by simp)
      cases t <;> simp_all [Token.isValue, Token.endsCondition]

theorem Clause.operandsGiven_append (c : Clause) (haft : ∀ t ∈ after.head?, t.endsCondition = true) :
    operandsGiven (c.tokens ++ after) = true ↔ c.IsSound ∧ operandsGiven after = true := by
  have hsou : c.IsSound ↔ c.test.isSupported = true ∧ c.asked.operands ≠ [] ∧
      ∀ t ∈ c.asked.operands, t.isValue = true := by
    rw [← Test.operator_mem_iff]
    exact ⟨fun h => ⟨h.1, h.2, h.3⟩, fun h => ⟨h.1, h.2.1, h.2.2⟩⟩
  have htok : operandsGiven (c.tokens ++ after) = operandsGiven (c.asked.tokens ++ after) := by
    obtain ⟨field, negated, asked⟩ := c
    cases negated <;> rfl
  rw [htok, hsou]
  obtain ⟨field, negated, asked⟩ := c
  cases asked with
  | compare op operand =>
    rw [Asked.tokens, cons_append, operandsGiven, Bool.and_assoc, Bool.and_eq_true,
      operandsGiven_operand operand haft]
    cases op <;> simp [Asked.operands, test, Test.isSupported]
  | like operand =>
    rw [Asked.tokens, cons_append, operandsGiven, operandsGiven_operand operand haft]
    simp [Asked.operands, test, Test.isSupported]
  | member items =>
    cases items with
    | none =>
      have hlist : listGiven after = false := by
        cases after with
        | nil => rfl
        | cons t after =>
          cases t with
          | lparen => cases haft .lparen (by simp)
          | field | operator | value | logical | rparen | member | negation | like | comma
          | eof => rfl
      simp [Asked.tokens, Asked.operands, operandsGiven, hlist]
    | some items =>
      have hite : (∀ t ∈ (Asked.member (some items)).operands, t.isValue = true) →
          operandsGiven (items.tokens ++ .rparen :: after) = operandsGiven after := by
        intro hall
        refine operandsGiven_append_of_items (fun t ht => ?_) _
        cases hcom : t.isComma with
        | true => simp
        | false => simp [hall t (mem_filter.mpr ⟨ht, by simp [hcom]⟩)]
      have hgiv : operandsGiven ((Asked.member (some items)).tokens ++ after) = true ↔
          listGiven (.lparen :: (items.tokens ++ .rparen :: after)) = true ∧
            operandsGiven (items.tokens ++ .rparen :: after) = true := by
        simp [Asked.tokens, operandsGiven]
      rw [hgiv, listGiven_iff]
      constructor
      · rintro ⟨⟨hne, hall⟩, hmore⟩
        exact ⟨⟨rfl, hne, hall⟩, hite hall ▸ hmore⟩
      all_goals grind

theorem Phrase.operandsGiven_append (p : Phrase) (after : List Token)
    (haft : ∀ t ∈ after.head?, t.endsCondition = true) :
    operandsGiven (p.tokens ++ after) = true ↔
      (∀ c ∈ p.clauses, c.IsSound) ∧ operandsGiven after = true := by
  induction p generalizing after with
  | clause c => simpa [tokens, clauses] using c.operandsGiven_append haft
  | enclosed p ih =>
    have hclo := ih (.rparen :: after) (by simp [Token.endsCondition])
    simpa [tokens, clauses, operandsGiven] using hclo
  | negation p ih => simpa [tokens, clauses, operandsGiven] using ih after haft
  | joined op l r ihl ihr =>
    have hleft := ihl (.logical op :: (r.tokens ++ after)) (by simp [Token.endsCondition])
    have hjoin : operandsGiven (.logical op :: (r.tokens ++ after)) =
        operandsGiven (r.tokens ++ after) := rfl
    rw [hjoin, ihr after haft, ← and_assoc] at hleft
    simpa [tokens, clauses, or_imp, forall_and] using hleft

lemma eq_nil_or_eq_eof {ts taken left : List Token} (hts : .eof ∉ ts)
    (h : ts ++ [.eof] = taken ++ left) (hleft : ∀ t ∈ left.head?, t = .eof) :
    left = [] ∨ left = [.eof] := by
  cases left with
  | nil => exact .inl rfl
  | cons t more =>
    obtain rfl : t = .eof := hleft t (by simp)
    rcases append_eq_append_iff.mp h with ⟨as, -, has⟩ | ⟨bs, hbs, hmore⟩
    · cases as with
      | nil => exact .inr has.symm
      | cons a as => simp at has
    · cases bs with
      | nil => exact .inr hmore
      | cons b bs =>
        cases hmore
        simp [hbs] at hts

/-- **Where the operands of a valid filter come from.** The tokens of a valid filter, up to its end, are those of a
phrase, and the conditions of its expression are those of the phrase: each has the literals that its operands stand
for. -/
theorem valid_filter_operands {filter : String} {e : Expr} (hvalid : validate filter = (true, []))
    (he : (parse filter).expression = some e) :
    ∃ ts, tokenize (Text.trim filter) = .ok ts ∧ ∃ p : Phrase, ts = p.tokens ++ unread ts ∧
      (unread ts = [] ∨ unread ts = [.eof]) ∧ p.expr = e ∧
      e.conditions = p.clauses.map (fun c => (c.field, c.test)) ∧
      (∀ c ∈ p.clauses, c.test.literals = c.asked.operands.map Token.literal) ∧
      ((∀ c ∈ p.clauses, c.IsSound) ↔ operandsGiven ts = true) := by
  obtain ⟨ts, htok, hpar⟩ := parseTokens_of_isValid (isValid_of_validate hvalid)
  rw [he] at hpar
  obtain ⟨p, hts, rfl, hend⟩ := exists_phrase hpar
  have heof : .eof ∉ ts := by
    obtain ⟨ls, hls, rfl⟩ := tokens_eq_ok_iff.mp htok
    exact hls.eof_notMem
  have hunr := eq_nil_or_eq_eof heof hts hend
  refine ⟨ts ++ [.eof], by rw [tokenize, htok]; rfl, p, hts, hunr, rfl, p.conditions_expr,
    fun c _ => c.literals_test, ?_⟩
  have hgiv := p.operandsGiven_append (unread (ts ++ [.eof])) fun t ht => by rw [hend t ht]; rfl
  have hleft : operandsGiven (unread (ts ++ [.eof])) = true := by
    rcases hunr with h | h <;> rw [h] <;> rfl
  rw [← hts] at hgiv
  rw [hgiv, and_iff_left hleft]

/-- A filter with a comparison and a list, whose conditions are sound. -/
theorem valid_filter_operands_of_list :
    validate "costs.amount > 5 AND costs.service NOT IN ( 'a' , 'b' )" = (true, []) ∧
      ∃ p : Phrase, p.expr = .logical .and (.condition "costs.amount" (.compare .gt (.int 5)))
          (.condition "costs.service" (.member true [.text "a", .text "b"])) ∧
        ∀ c ∈ p.clauses, c.IsSound := by
  have hval : validate "costs.amount > 5 AND costs.service NOT IN ( 'a' , 'b' )" = (true, []) := by decide +kernel
  have hgiv : (tokenize (Text.trim "costs.amount > 5 AND costs.service NOT IN ( 'a' , 'b' )")).toOption.map
      operandsGiven = some true := by decide +kernel
  have he : (parse "costs.amount > 5 AND costs.service NOT IN ( 'a' , 'b' )").expression =
      some (.logical .and (.condition "costs.amount" (.compare .gt (.int 5)))
        (.condition "costs.service" (.member true [.text "a", .text "b"]))) := by decide +kernel
  obtain ⟨ts, hts, p, -, -, hexpr, -, -, hsou⟩ := valid_filter_operands hval he
  rw [hts] at hgiv
  exact ⟨hval, p, hexpr, hsou.mpr (Option.some.inj hgiv)⟩

/-- Three filters that are valid although a condition of theirs is not sound: one without an operand,
one without a list, and one with an operator that is not of the language. -/
theorem valid_without_operand :
    (tokens "costs.amount >" = .ok [.field "costs.amount", .operator .gt] ∧
      validate "costs.amount >" = (true, []) ∧
      (parse "costs.amount >").expression =
        some (.condition "costs.amount" (.compare .gt .null))) ∧
    (tokens "costs.service IN" = .ok [.field "costs.service", .member] ∧
      validate "costs.service IN" = (true, []) ∧
      (parse "costs.service IN").expression = some (.condition "costs.service" (.member false []))) ∧
    (validate "costs.amount ! 5" = (true, []) ∧
      (parse "costs.amount ! 5").expression =
        some (.condition "costs.amount" (.compare .bang (.int 5))) ∧
      Comparison.bang.text ∉ compareOperators ++ memberOperators) := by
  refine ⟨⟨Result.eq_ok_of_toOption ?_, ?_⟩, ⟨Result.eq_ok_of_toOption ?_, ?_⟩, ?_⟩ <;> decide +kernel

end CloudSpend.Filter
