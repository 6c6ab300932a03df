import CloudSpend.Filter.Parser
import Mathlib.Tactic.Common

/-! # What an accepted filter looks like -/

namespace CloudSpend.Filter

open Token

def Token.endsList : Token → Bool
  | .rparen | .eof => true
  | _ => false

def Token.isComma : Token → Bool
  | .comma => true
  | _ => false

structure Items where
  tokens : List Token
  endsList_eq_false : ∀ t ∈ tokens, t.endsList = false

inductive Asked where
  | compare (op : Comparison) (operand : Option Token)
  | like (operand : Option Token)
  | member (items : Option Items)

def Asked.tokens : Asked → List Token
  | .compare op operand => .operator op :: operand.toList
  | .like operand => .like :: operand.toList
  | .member none => [.member]
  | .member (some items) => .member :: .lparen :: (items.tokens ++ [.rparen])

def Asked.operands : Asked → List Token
  | .compare _ operand => [operand.getD .eof]
  | .like operand => [operand.getD .eof]
  | .member none => []
  | .member (some items) => items.tokens.filter fun t => !t.isComma

structure Clause where
  field : String
  negated : Bool
  asked : Asked

namespace Clause

def tokens (c : Clause) : List Token :=
  .field c.field :: ((if c.negated then [.negation] else []) ++ c.asked.tokens)

def test (c : Clause) : Test :=
  match c.asked with
  | .compare op operand => .compare op (operand.getD .eof).literal
  | .like operand => .like c.negated (operand.getD .eof).literal
  | .member none => .member c.negated []
  | .member (some items) =>
    .member c.negated ((items.tokens.filter fun t => !t.isComma).map literal)

lemma literals_test (c : Clause) : c.test.literals = c.asked.operands.map literal := by
  obtain ⟨field, negated, asked⟩ := c
  cases asked with
  | compare op operand => rfl
  | like operand => rfl
  | member items => cases items <;> rfl

end Clause

inductive Phrase where
  | clause (c : Clause)
  | enclosed (p : Phrase)
  | negation (p : Phrase)
  | joined (op : Connective) (left right : Phrase)

namespace Phrase

def tokens : Phrase → List Token
  | .clause c => c.tokens
  | .enclosed p => .lparen :: (p.tokens ++ [.rparen])
  | .negation p => .negation :: p.tokens
  | .joined op l r => l.tokens ++ .logical op :: r.tokens

def expr : Phrase → Expr
  | .clause c => .condition c.field c.test
  | .enclosed p => p.expr
  | .negation p => .negation p.expr
  | .joined op l r => .logical op l.expr r.expr

def clauses : Phrase → List Clause
  | .clause c => [c]
  | .enclosed p => p.clauses
  | .negation p => p.clauses
  | .joined _ l r => l.clauses ++ r.clauses

end Phrase

def ReadsPhrase (ts : List Token) (p : Parsed Expr) : Prop :=
  p.problems = [] → ∃ ph : Phrase, ts = ph.tokens ++ p.rest ∧ ph.expr = p.result

lemma literalList_spec (ts : List Token) (h : (literalList ts).problems = []) :
    ∃ items : Items, ts = items.tokens ++ .rparen :: (literalList ts).rest ∧
      (literalList ts).result = (items.tokens.filter fun t => !t.isComma).map literal := by
  fun_induction literalList ts with
  | case1 => simp at h
  | case2 rest => exact ⟨⟨[], by simp⟩, rfl, rfl⟩
  | case3 rest => simp at h
  | case4 rest ih =>
    obtain ⟨items, hts, hres⟩ := ih h
    refine ⟨⟨.comma :: items.tokens, ?_⟩, ?_, ?_⟩
    · simpa [endsList] using items.endsList_eq_false
    · rw [List.cons_append, ← hts]
    · simpa [isComma] using hres
  | case5 t rest hrpa heof hcom p ih =>
    obtain ⟨items, hts, hres⟩ := ih h
    have hend : t.endsList = false := by
      cases t with
      | rparen => exact absurd rfl hrpa
      | eof => exact absurd rfl heof
      | field | operator | value | logical | lparen | member | negation | like | comma => rfl
    have hkeep : t.isComma = false := by
      cases t with
      | comma => exact absurd rfl hcom
      | field | operator | value | logical | lparen | member | negation | like | rparen | eof => rfl
    refine ⟨⟨t :: items.tokens, ?_⟩, ?_, ?_⟩
    · simpa [hend] using items.endsList_eq_false
    · rw [List.cons_append, ← hts]
    · simp [hkeep, hres, p]

lemma toList_head?_append_drop (ts : List Token) :
    ts = ts.head?.toList ++ ts.drop 1 ∧ (current ts).literal = (ts.head?.getD .eof).literal := by
  cases ts <;> exact ⟨rfl, rfl⟩

lemma memberOperand_spec (ts : List Token) (h : (memberOperand ts).problems = []) :
    ∃ items : Option Items, .member :: ts = (Asked.member items).tokens ++ (memberOperand ts).rest ∧
      (memberOperand ts).result = (Asked.member items).operands.map literal := by
  unfold memberOperand at h ⊢
  split at h
  · next rest =>
      obtain ⟨items, hts, hres⟩ := literalList_spec rest h
      exact ⟨some items, by simpa [Asked.tokens] using hts, hres⟩
  · exact ⟨none, rfl, rfl⟩

lemma conditionTail_spec (f : String) (negated : Bool) (ts : List Token)
    (h : (conditionTail f negated ts).problems = []) :
    ∃ asked : Asked, ts = asked.tokens ++ (conditionTail f negated ts).rest ∧
      (conditionTail f negated ts).result = .condition f (Clause.mk f negated asked).test := by
  unfold conditionTail at h ⊢
  split at h
  · next rest =>
      obtain ⟨items, hts, hres⟩ := memberOperand_spec rest h
      refine ⟨.member items, hts, ?_⟩
      cases items <;> simp [Clause.test, hres, Asked.operands]
  · next rest =>
      obtain ⟨hrest, hlit⟩ := toList_head?_append_drop rest
      refine ⟨.like rest.head?, ?_, ?_⟩
      · simpa [Asked.tokens] using hrest
      · simp [Clause.test, hlit]
  · next op rest =>
      obtain ⟨hrest, hlit⟩ := toList_head?_append_drop rest
      refine ⟨.compare op rest.head?, ?_, ?_⟩
      · simpa [Asked.tokens] using hrest
      · simp [Clause.test, hlit]
  · simp at h

lemma condition_readsPhrase (ts : List Token) : ReadsPhrase ts (condition ts) := by
  intro h
  unfold condition at h ⊢
  split at h
  · next f rest =>
      obtain ⟨asked, hts, hres⟩ := conditionTail_spec f true rest h
      refine ⟨.clause ⟨f, true, asked⟩, ?_, hres.symm⟩
      simpa [Phrase.tokens, Clause.tokens] using hts
  · next f rest _ =>
      obtain ⟨asked, hts, hres⟩ := conditionTail_spec f false rest h
      refine ⟨.clause ⟨f, false, asked⟩, ?_, hres.symm⟩
      simpa [Phrase.tokens, Clause.tokens] using hts
  · simp at h

variable {ts : List Token} {e : Expr} {s : String}

lemma ReadsPhrase.joined {rest : List Token} {left : Expr} {problems : List Problem} {n m : Nat}
    {op : Connective} {p : Parsed Expr}
    (hleft : ReadsPhrase ts ⟨left, .logical op :: rest, problems, n⟩) (hrig : ReadsPhrase rest p) :
    ReadsPhrase ts ⟨.logical op left p.result, p.rest, problems ++ p.problems, m⟩ := by
  intro h
  obtain ⟨hpro, hmore⟩ := List.append_eq_nil_iff.mp h
  obtain ⟨l, hl, hlex⟩ := hleft hpro
  obtain ⟨r, hr, hrex⟩ := hrig hmore
  refine ⟨.joined op l r, ?_, ?_⟩
  · rw [hl, Phrase.tokens, List.append_assoc, List.cons_append, ← hr]
  · simp only [Phrase.expr, hlex, hrex]

structure LevelsRead (fuel : Nat) : Prop where
  primary : ∀ ts, ReadsPhrase ts (primary fuel ts)
  factor : ∀ ts, ReadsPhrase ts (factor fuel ts)
  conjunctionTail : ∀ ts p, ReadsPhrase ts p → ReadsPhrase ts (conjunctionTail fuel p)
  conjunction : ∀ ts, ReadsPhrase ts (conjunction fuel ts)
  disjunctionTail : ∀ ts p, ReadsPhrase ts p → ReadsPhrase ts (disjunctionTail fuel p)
  disjunction : ∀ ts, ReadsPhrase ts (disjunction fuel ts)

lemma LevelsRead.zero : LevelsRead 0 where
  primary ts := by simpa [Filter.primary] using condition_readsPhrase ts
  factor ts := by simpa [Filter.factor] using condition_readsPhrase ts
  conjunctionTail ts p hp := by simpa [Filter.conjunctionTail] using hp
  conjunction ts := by simpa [Filter.conjunction] using condition_readsPhrase ts
  disjunctionTail ts p hp := by simpa [Filter.disjunctionTail] using hp
  disjunction ts := by simpa [Filter.disjunction] using condition_readsPhrase ts

lemma LevelsRead.succ {fuel : Nat} (ih : LevelsRead fuel) : LevelsRead (fuel + 1) where
  primary ts := by
    unfold Filter.primary
    split
    · next n rest hn =>
        cases hn
        dsimp only
        intro h
        split at h
        · next after haft =>
            obtain ⟨ph, hts, hexpr⟩ := ih.disjunction rest h
            refine ⟨.enclosed ph, ?_, ?_⟩
            · rw [hts]
              simp [Phrase.tokens, haft]
            · simpa [Phrase.expr, haft] using hexpr
        · simp at h
    · exact condition_readsPhrase _
  factor ts := by
    unfold Filter.factor
    split
    · next n rest hn =>
        cases hn
        intro h
        obtain ⟨ph, hts, hexpr⟩ := ih.primary rest h
        refine ⟨.negation ph, ?_, ?_⟩
        · rw [Phrase.tokens, List.cons_append, ← hts]
        · rw [Phrase.expr, hexpr]
    · next n hn _ =>
        cases hn
        exact ih.primary _
    · exact condition_readsPhrase _
  conjunctionTail ts p hp := by
    unfold Filter.conjunctionTail
    split
    · next n left rest problems nesting hn =>
        cases hn
        exact ih.conjunctionTail ts _ (hp.joined (ih.factor rest))
    · exact hp
  conjunction ts := ih.conjunctionTail ts _ (ih.factor ts)
  disjunctionTail ts p hp := by
    unfold Filter.disjunctionTail
    split
    · next n left rest problems nesting hn =>
        cases hn
        exact ih.disjunctionTail ts _ (hp.joined (ih.conjunction rest))
    · exact hp
  disjunction ts := ih.disjunctionTail ts _ (ih.conjunction ts)

lemma levelsRead (fuel : Nat) : LevelsRead fuel := by
  induction fuel with
  | zero => exact .zero
  | succ fuel ih => exact ih.succ

def unread (ts : List Token) : List Token := (disjunction (depthFor ts.length) ts).rest

lemma parseTokens_spec (h : parseTokens ts = (some e, [])) :
    (disjunction (depthFor ts.length) ts).result = e ∧
      (disjunction (depthFor ts.length) ts).problems = [] ∧ ∀ t ∈ (unread ts).head?, t = .eof := by
  unfold parseTokens at h
  split at h
  · simp at h
  · simp at h
  · dsimp only at h
    split at h
    · simp at h
    · split at h
      · next hrest => simpa [unread, hrest] using h
      · next hrest => simpa [unread, hrest] using h
      · simp at h

theorem exists_phrase (h : parseTokens ts = (some e, [])) :
    ∃ p : Phrase, ts = p.tokens ++ unread ts ∧ p.expr = e ∧ ∀ t ∈ (unread ts).head?, t = .eof := by
  obtain ⟨hres, hpro, hend⟩ := parseTokens_spec h
  obtain ⟨p, hts, hexpr⟩ := (levelsRead (depthFor ts.length)).disjunction ts hpro
  exact ⟨p, hts, hexpr.trans hres, hend⟩

lemma head_of_parseTokens_eq_none (h : parseTokens ts = (none, [])) : ∀ t ∈ ts.head?, t = .eof := by
  unfold parseTokens at h
  grind

lemma isValid_of_validate (h : validate s = (true, [])) : (parse s).isValid = true := by
  rw [validate] at h
  exact (Prod.mk.inj h).1

lemma parseTokens_of_isValid (h : (parse s).isValid = true) : ∃ ts, tokens (Text.trim s) = .ok ts ∧
      parseTokens (ts ++ [.eof]) = ((parse s).expression, []) := by
  unfold parse at h ⊢
  dsimp only at h ⊢
  split at h
  · simp [Query.isValid] at h
  · next hemp =>
      rw [if_neg hemp]
      cases htok : tokens (Text.trim s) with
      | error e => simp [tokenize, htok, Except.map, Query.isValid] at h
      | ok ts =>
        simp only [tokenize, htok, Except.map, Query.isValid, List.isEmpty_iff] at h ⊢
        exact ⟨ts, rfl, Prod.ext rfl h⟩

end CloudSpend.Filter
