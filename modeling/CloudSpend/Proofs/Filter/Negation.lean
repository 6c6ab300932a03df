import CloudSpend.Proofs.Data.Entries
import CloudSpend.Proofs.Filter.Phrase

/-! # Where a `NOT` goes -/

namespace CloudSpend.Filter

open List Token

def Token.isNegation : Token → Bool
  | .negation => true
  | _ => false

def Test.isNegated : Test → Bool
  | .compare _ _ => false
  | .like negated _ => negated
  | .member negated _ => negated

def Expr.negations : Expr → Nat
  | .condition _ t => t.isNegated.toNat
  | .logical _ l r => l.negations + r.negations
  | .negation e => e.negations + 1

namespace Clause

def ignoresNegation (c : Clause) : Bool := c.negated && !c.test.isNegated

lemma toNat_negated (c : Clause) :
    c.negated.toNat = c.test.isNegated.toNat + c.ignoresNegation.toNat := by
  obtain ⟨field, negated, asked⟩ := c
  cases negated <;> cases asked with
  | compare op operand => rfl
  | like operand => rfl
  | member items => cases items <;> rfl

lemma ignoresNegation_iff (c : Clause) :
    c.ignoresNegation = true ↔ c.negated = true ∧ ∃ op operand, c.asked = .compare op operand := by
  obtain ⟨field, negated, asked⟩ := c
  cases negated <;> cases asked with
  | compare op operand => simp [ignoresNegation, test, Test.isNegated]
  | like operand => simp [ignoresNegation, test, Test.isNegated]
  | member items => cases items <;> simp [ignoresNegation, test, Test.isNegated]

end Clause

lemma Asked.countP_isNegation (asked : Asked) :
    asked.tokens.countP isNegation = asked.operands.countP isNegation := by
  have hope : ∀ operand : Option Token,
      operand.toList.countP isNegation = [operand.getD .eof].countP isNegation := by
    intro operand
    cases operand <;> rfl
  have hitem : ∀ t : Token, (t.isNegation && !t.isComma) = t.isNegation := by
    intro t
    cases t <;> rfl
  cases asked with
  | compare op operand => exact hope operand
  | like operand => exact hope operand
  | member items =>
    cases items with
    | none => rfl
    | some items =>
      have hite : (items.tokens.filter fun t => !t.isComma).countP isNegation =
          items.tokens.countP isNegation := by
        rw [countP_filter]
        exact congrArg (countP · items.tokens) (funext hitem)
      rw [operands, hite]
      simp [tokens, isNegation]

lemma Clause.countP_isNegation (c : Clause) :
    c.tokens.countP isNegation =
      c.test.isNegated.toNat + c.ignoresNegation.toNat +
        c.asked.operands.countP isNegation := by
  rw [← c.toNat_negated, ← Asked.countP_isNegation]
  obtain ⟨field, negated, asked⟩ := c
  cases negated <;> simp [tokens, countP_cons, isNegation, Nat.add_comm]

namespace Phrase

def operands (p : Phrase) : List Token := p.clauses.flatMap fun c => c.asked.operands

lemma countP_isNegation (p : Phrase) :
    p.tokens.countP isNegation =
      p.expr.negations + p.clauses.countP Clause.ignoresNegation +
        p.operands.countP isNegation := by
  induction p with
  | clause c =>
    have hc := c.countP_isNegation
    cases hign : c.ignoresNegation <;>
      simpa [tokens, expr, clauses, operands, Expr.negations, hign] using hc
  | enclosed p ih =>
    simpa [tokens, expr, clauses, operands, countP_cons, isNegation] using ih
  | negation p ih =>
    simp only [tokens, expr, clauses, operands, countP_cons, isNegation, reduceIte,
      Expr.negations] at ih ⊢
    omega
  | joined op l r ihl ihr =>
    simp only [tokens, expr, clauses, operands, countP_append, countP_cons,
      flatMap_append, isNegation, Bool.false_eq_true, reduceIte, Expr.negations]
      at ihl ihr ⊢
    omega

end Phrase

/-- **Where the `NOT`s of an accepted filter go.** The tokens that the parser takes are those of a phrase. Each `NOT`
among them is a negation of the expression, or stands between a field and a comparison, where it is ignored, or stands
for an operand. -/
theorem accepted_negations {ts : List Token} {e : Expr} (h : parseTokens ts = (some e, [])) :
    ∃ p : Phrase, ts = p.tokens ++ unread ts ∧ p.expr = e ∧
      p.tokens.countP Token.isNegation =
        e.negations + p.clauses.countP Clause.ignoresNegation + p.operands.countP Token.isNegation ∧
      (p.tokens.countP Token.isNegation = e.negations ↔
        (∀ c ∈ p.clauses, ∀ op operand, c.asked = .compare op operand → c.negated = false) ∧
          ∀ t ∈ p.operands, t.isNegation = false) := by
  obtain ⟨p, hts, rfl, -⟩ := exists_phrase h
  have hcou := p.countP_isNegation
  refine ⟨p, hts, rfl, hcou, ?_⟩
  have hign : p.clauses.countP Clause.ignoresNegation = 0 ↔
      ∀ c ∈ p.clauses, ∀ op operand, c.asked = .compare op operand → c.negated = false := by
    rw [countP_eq_zero]
    refine forall₂_congr fun c _ => ?_
    rw [Clause.ignoresNegation_iff]
    cases c.negated <;> simp
  have htak : p.operands.countP Token.isNegation = 0 ↔ ∀ t ∈ p.operands, t.isNegation = false := by
    simp [countP_eq_zero]
  rw [← hign, ← htak]
  omega

/-- `NOT costs.service NOT LIKE 'a' AND costs.amount NOT > NOT` has four `NOT`s, and two of them are
negations of its expression. -/
theorem accepted_negations_of_four :
    parseTokens [.negation, .field "costs.service", .negation, .like, .value (.text "a"),
        .logical .and, .field "costs.amount", .negation, .operator .gt, .negation, .eof] =
      (some (.logical .and (.negation (.condition "costs.service" (.like true (.text "a"))))
        (.condition "costs.amount" (.compare .gt (.text "NOT")))), []) ∧
    ∃ p : Phrase, p.tokens.countP Token.isNegation = 4 ∧ p.expr.negations = 2 ∧
      p.clauses.countP Clause.ignoresNegation + p.operands.countP Token.isNegation = 2 := by
  have hacc : parseTokens [.negation, .field "costs.service", .negation, .like,
      .value (.text "a"), .logical .and, .field "costs.amount", .negation, .operator .gt, .negation,
      .eof] = (some (.logical .and (.negation (.condition "costs.service" (.like true (.text "a"))))
        (.condition "costs.amount" (.compare .gt (.text "NOT")))), []) := rfl
  obtain ⟨p, hts, hexpr, hcou, -⟩ := accepted_negations hacc
  have hfour : p.tokens.countP Token.isNegation = 4 := by
    have htot := congrArg (List.countP Token.isNegation) hts
    rw [countP_append] at htot
    exact htot.symm
  have htwo : p.expr.negations = 2 := by
    rw [hexpr]
    rfl
  rw [← hexpr] at hcou
  exact ⟨hacc, p, hfour, htwo, by omega⟩

/-- A `NOT` before a comparison is read and forgotten: the filter is accepted, and its expression is
that of the comparison without it. -/
theorem parse_negated_comparison :
    tokens "costs.amount NOT > 5" =
        .ok [.field "costs.amount", .negation, .operator .gt, .value (.int 5)] ∧
      validate "costs.amount NOT > 5" = (true, []) ∧
      (parse "costs.amount NOT > 5").expression =
        some (.condition "costs.amount" (.compare .gt (.int 5))) ∧
      (Expr.condition "costs.amount" (.compare .gt (.int 5))).negations = 0 := by
  refine ⟨Result.eq_ok_of_toOption ?_, ?_⟩ <;> decide +kernel

end CloudSpend.Filter
