import CloudSpend.Proofs.Filter.TokenPrinter
import Mathlib.Logic.Function.Iterate

/-! # Parsing a printed filter -/

namespace CloudSpend.Filter

open List

lemma literalList_literalTokens (vs : List Literal) (rest : List Token) :
    literalList (literalTokens vs ++ .rparen :: rest) = ⟨vs, rest, [], 0⟩ := by
  induction vs using literalTokens.induct with
  | case1 => rfl
  | case2 v => rfl
  | case3 v vs _ ih => simp [literalTokens, literalList, ih, Token.literal]

lemma condition_tokens (f : String) (t : Test) (rest : List Token) :
    condition (.field f :: t.tokens ++ rest) = ⟨.condition f t, rest, [], 0⟩ := by
  cases t with
  | compare op v => rfl
  | like negated v => cases negated <;> rfl
  | member negated vs =>
    cases negated <;>
      simp [Test.tokens, condition, conditionTail, memberOperand, literalList_literalTokens]

def Expr.tokensAt (e : Expr) (required : Nat) : List Token := enclose required e.level e.tokens

def encloseDepth (required level depth : Nat) : Nat := if required ≤ level then depth else depth + 1

def Expr.nesting : Expr → Nat
  | .condition _ _ => 0
  | .logical .or l r => max (encloseDepth 0 l.level l.nesting) (encloseDepth 1 r.level r.nesting)
  | .logical .and l r => max (encloseDepth 1 l.level l.nesting) (encloseDepth 2 r.level r.nesting)
  | .negation e => encloseDepth 3 e.level e.nesting

def Expr.nestingAt (e : Expr) (required : Nat) : Nat := encloseDepth required e.level e.nesting

variable {e l r : Expr} {required : Nat} {rest : List Token}

lemma Expr.tokensAt_of_le (h : required ≤ e.level) : e.tokensAt required = e.tokens := by
  simp [tokensAt, enclose, h]

lemma Expr.tokensAt_of_lt (h : e.level < required) :
    e.tokensAt required = .lparen :: (e.tokens ++ [.rparen]) := by
  simp [tokensAt, enclose, Nat.not_le.mpr h]

lemma Expr.nestingAt_of_le (h : required ≤ e.level) : e.nestingAt required = e.nesting := by
  simp [nestingAt, encloseDepth, h]

lemma Expr.nestingAt_of_lt (h : e.level < required) : e.nestingAt required = e.nesting + 1 := by
  simp [nestingAt, encloseDepth, Nat.not_le.mpr h]

lemma Expr.length_tokens_le (e : Expr) (required : Nat) :
    e.tokens.length ≤ (e.tokensAt required).length := by
  rcases Nat.lt_or_ge e.level required with h | h
  · rw [tokensAt_of_lt h, length_cons, length_append]
    omega
  · exact Nat.le_of_eq (congrArg length (tokensAt_of_le h).symm)

def Expr.chain (op : Connective) : Expr → Nat
  | .logical op' l _ => if op' = op then l.chain op + 1 else 0
  | _ => 0

lemma Expr.chain_le (op : Connective) (e : Expr) : e.chain op ≤ e.tokens.length := by
  induction e with
  | condition f t => simp [chain]
  | logical op' l r ihl ihr =>
    have h0 : l.tokens.length ≤ (enclose 0 l.level l.tokens).length := l.length_tokens_le 0
    have h1 : l.tokens.length ≤ (enclose 1 l.level l.tokens).length := l.length_tokens_le 1
    simp only [chain]
    split
    · cases op' <;> simp only [tokens, length_append, length_cons] <;> omega
    · exact Nat.zero_le _
  | negation e ih => simp [chain]

lemma conjunctionTail_stop (h : ∀ more, rest ≠ .logical .and :: more) (fuel : Nat) (e : Expr)
    (problems : List Problem) (n : Nat) :
    conjunctionTail fuel ⟨e, rest, problems, n⟩ = ⟨e, rest, problems, n⟩ := by
  rw [conjunctionTail]
  intro _ _ more _ _ _ heq
  exact h more (congrArg Parsed.rest heq)

lemma disjunctionTail_stop (h : ∀ more, rest ≠ .logical .or :: more) (fuel : Nat) (e : Expr)
    (problems : List Problem) (n : Nat) :
    disjunctionTail fuel ⟨e, rest, problems, n⟩ = ⟨e, rest, problems, n⟩ := by
  rw [disjunctionTail]
  intro _ _ more _ _ _ heq
  exact h more (congrArg Parsed.rest heq)

/-! ### What each level reads back -/

def PrimaryReads (e : Expr) : Prop := ∀ fuel rest, 6 * (e.tokensAt 3).length ≤ fuel →
  primary fuel (e.tokensAt 3 ++ rest) = ⟨e, rest, [], e.nestingAt 3⟩

def FactorReads (e : Expr) : Prop := ∀ fuel rest, 6 * (e.tokensAt 2).length + 1 ≤ fuel →
  factor fuel (e.tokensAt 2 ++ rest) = ⟨e, rest, [], e.nestingAt 2⟩

def ConjunctionReads (e : Expr) : Prop := ∀ fuel rest, 6 * (e.tokensAt 1).length + 2 ≤ fuel →
  conjunction (fuel + 1) (e.tokensAt 1 ++ rest) =
    conjunctionTail (fuel - e.chain .and) ⟨e, rest, [], e.nestingAt 1⟩

def DisjunctionReads (e : Expr) : Prop := ∀ fuel rest, (∀ more, rest ≠ .logical .and :: more) →
  6 * e.tokens.length + 4 ≤ fuel →
  disjunction (fuel + 1) (e.tokens ++ rest) =
    disjunctionTail (fuel - e.chain .or) ⟨e, rest, [], e.nesting⟩

lemma DisjunctionReads.primary (h : DisjunctionReads e) (hlev : e.level < 3) : PrimaryReads e := by
  intro fuel rest hfuel
  rw [Expr.tokensAt_of_lt hlev, length_cons, length_append, length_singleton] at hfuel
  obtain ⟨fuel, rfl⟩ : ∃ k, fuel = k + 2 := ⟨fuel - 2, by omega⟩
  have hinn := h fuel (.rparen :: rest) (by simp) (by omega)
  rw [disjunctionTail_stop (by simp)] at hinn
  rw [Expr.tokensAt_of_lt hlev, Expr.nestingAt_of_lt hlev, cons_append, append_assoc,
    singleton_append, Filter.primary, hinn]

lemma factor_succ {ts : List Token} (h : ∀ more, ts ≠ .negation :: more) (fuel : Nat) :
    factor (fuel + 1) ts = primary fuel ts := by
  rw [factor]
  exact fun more heq => h more heq

lemma PrimaryReads.factor (h : PrimaryReads e) (htok : e.tokensAt 2 = e.tokensAt 3)
    (hnes : e.nestingAt 2 = e.nestingAt 3) (hhead : ∃ t ts, e.tokensAt 3 = t :: ts ∧ t ≠ .negation) :
    FactorReads e := by
  intro fuel rest hfuel
  rw [htok] at hfuel ⊢
  obtain ⟨fuel, rfl⟩ : ∃ k, fuel = k + 1 := ⟨fuel - 1, by omega⟩
  obtain ⟨t, ts, hts, ht⟩ := hhead
  have hno : ∀ more, e.tokensAt 3 ++ rest ≠ .negation :: more := by
    intro more heq
    rw [hts, cons_append] at heq
    exact ht (cons.inj heq).1
  rw [factor_succ hno, h fuel rest (by omega), hnes]

lemma FactorReads.conjunction (h : FactorReads e) (htok : e.tokensAt 1 = e.tokensAt 2)
    (hnes : e.nestingAt 1 = e.nestingAt 2) (hcha : e.chain .and = 0) : ConjunctionReads e := by
  intro fuel rest hfuel
  rw [htok] at hfuel ⊢
  rw [Filter.conjunction, h fuel rest (by omega), hnes, hcha, Nat.sub_zero]

lemma ConjunctionReads.disjunction (h : ConjunctionReads e) (hlev : 1 ≤ e.level)
    (hcha : e.chain .or = 0) : DisjunctionReads e := by
  intro fuel rest hrest hfuel
  obtain ⟨fuel, rfl⟩ : ∃ k, fuel = k + 1 := ⟨fuel - 1, by omega⟩
  have hinn := h fuel rest (by rw [Expr.tokensAt_of_le hlev]; omega)
  rw [Expr.tokensAt_of_le hlev, Expr.nestingAt_of_le hlev, conjunctionTail_stop hrest] at hinn
  rw [Filter.disjunction, hinn, hcha, Nat.sub_zero]

structure ReadsBack (e : Expr) : Prop where
  primary : PrimaryReads e
  factor : FactorReads e
  conjunction : ConjunctionReads e
  disjunction : DisjunctionReads e

lemma readsBack_condition (f : String) (t : Test) : ReadsBack (.condition f t) := by
  have hpri : PrimaryReads (.condition f t) := by
    intro fuel rest _
    have htok : (Expr.condition f t).tokensAt 3 = .field f :: t.tokens := rfl
    rw [htok, cons_append, primary, ← cons_append, condition_tokens]
    · rfl
    · simp
  have hfac : FactorReads (.condition f t) := hpri.factor rfl rfl ⟨_, _, rfl, by simp⟩
  have hcon : ConjunctionReads (.condition f t) := hfac.conjunction rfl rfl rfl
  exact ⟨hpri, hfac, hcon, hcon.disjunction (by simp [Expr.level]) rfl⟩

lemma readsBack_negation (h : ReadsBack e) : ReadsBack (.negation e) := by
  have hfac : FactorReads (.negation e) := by
    intro fuel rest hfuel
    have htok : (Expr.negation e).tokensAt 2 = .negation :: e.tokensAt 3 := rfl
    rw [htok, length_cons] at hfuel
    obtain ⟨fuel, rfl⟩ : ∃ k, fuel = k + 1 := ⟨fuel - 1, by omega⟩
    rw [htok, cons_append, factor, h.primary fuel rest (by omega)]
    rfl
  have hcon : ConjunctionReads (.negation e) := hfac.conjunction rfl rfl rfl
  have hdis : DisjunctionReads (.negation e) := hcon.disjunction (by simp [Expr.level]) rfl
  exact ⟨hdis.primary (by simp [Expr.level]), hfac, hcon, hdis⟩

lemma readsBack_and (hl : ReadsBack l) (hr : ReadsBack r) : ReadsBack (.logical .and l r) := by
  have hcon : ConjunctionReads (.logical .and l r) := by
    intro fuel rest hfuel
    have htok : (Expr.logical .and l r).tokensAt 1 =
        l.tokensAt 1 ++ .logical .and :: r.tokensAt 2 := rfl
    have hcha : (Expr.logical .and l r).chain .and = l.chain .and + 1 := rfl
    have hle : l.chain .and ≤ (l.tokensAt 1).length :=
      Nat.le_trans (l.chain_le .and) (l.length_tokens_le 1)
    rw [htok, length_append, length_cons] at hfuel
    rw [htok, append_assoc, cons_append,
      hl.conjunction fuel (.logical .and :: (r.tokensAt 2 ++ rest)) (by omega)]
    obtain ⟨k, hk⟩ : ∃ k, fuel - l.chain .and = k + 1 := ⟨fuel - l.chain .and - 1, by omega⟩
    have hk' : fuel - (l.chain .and + 1) = k := by omega
    rw [hk, conjunctionTail, hr.factor k rest (by omega), hcha, hk']
    rfl
  have hdis : DisjunctionReads (.logical .and l r) :=
    hcon.disjunction (by simp [Expr.level]) rfl
  have hpri : PrimaryReads (.logical .and l r) := hdis.primary (by simp [Expr.level])
  exact ⟨hpri, hpri.factor rfl rfl ⟨_, _, rfl, by simp⟩, hcon, hdis⟩

lemma readsBack_or (hl : ReadsBack l) (hr : ReadsBack r) : ReadsBack (.logical .or l r) := by
  have hdis : DisjunctionReads (.logical .or l r) := by
    intro fuel rest hrest hfuel
    have htok : (Expr.logical .or l r).tokens = l.tokens ++ .logical .or :: r.tokensAt 1 := rfl
    have hcha : (Expr.logical .or l r).chain .or = l.chain .or + 1 := rfl
    have hle : l.chain .or ≤ l.tokens.length := l.chain_le .or
    rw [htok, length_append, length_cons] at hfuel
    rw [htok, append_assoc, cons_append,
      hl.disjunction fuel (.logical .or :: (r.tokensAt 1 ++ rest)) (by simp) (by omega)]
    obtain ⟨k, hk⟩ : ∃ k, fuel - l.chain .or = k + 2 := ⟨fuel - l.chain .or - 2, by omega⟩
    have hk' : fuel - (l.chain .or + 1) = k + 1 := by omega
    have hrig := hr.conjunction k rest (by omega)
    rw [conjunctionTail_stop hrest] at hrig
    rw [hk, disjunctionTail, hrig, hcha, hk']
    rfl
  have hpri : PrimaryReads (.logical .or l r) := hdis.primary (by simp [Expr.level])
  have hfac : FactorReads (.logical .or l r) :=
    hpri.factor rfl rfl ⟨_, _, rfl, by simp⟩
  exact ⟨hpri, hfac, hfac.conjunction rfl rfl rfl, hdis⟩

lemma readsBack (e : Expr) : ReadsBack e := by
  induction e with
  | condition f t => exact readsBack_condition f t
  | logical op l r ihl ihr =>
    cases op with
    | and => exact readsBack_and ihl ihr
    | or => exact readsBack_or ihl ihr
  | negation e ih => exact readsBack_negation ih

lemma Expr.tokens_eq_cons (e : Expr) : ∃ t ts, e.tokens = t :: ts ∧ t ≠ .eof := by
  induction e with
  | condition f t => exact ⟨_, _, rfl, by simp⟩
  | logical op l r ihl _ =>
    obtain ⟨t, ts, hts, ht⟩ := ihl
    have hleft : ∀ required, ∃ u us, enclose required l.level l.tokens = u :: us ∧ u ≠ .eof := by
      intro required
      unfold enclose
      split
      · exact ⟨t, ts, hts, ht⟩
      · exact ⟨_, _, rfl, by simp⟩
    cases op with
    | and =>
      obtain ⟨u, us, hus, hu⟩ := hleft 1
      exact ⟨u, _, by rw [tokens, hus, cons_append], hu⟩
    | or =>
      obtain ⟨u, us, hus, hu⟩ := hleft 0
      exact ⟨u, _, by rw [tokens, hus, cons_append], hu⟩
  | negation e _ => exact ⟨_, _, rfl, by simp⟩

lemma parseTokens_tokens (e : Expr) (limit : Nat) :
    parseTokens (e.tokens ++ [.eof]) limit =
      if e.nesting ≤ limit then (some e, []) else (none, [.unreadable .tooNested]) := by
  obtain ⟨t, ts, hts, ht⟩ := e.tokens_eq_cons
  have hread : disjunction (depthFor (e.tokens ++ [Token.eof]).length) (e.tokens ++ [.eof]) =
      ⟨e, [.eof], [], e.nesting⟩ := by
    have hdep : depthFor (e.tokens ++ [Token.eof]).length = 6 * e.tokens.length + 11 + 1 := by
      simp only [depthFor, length_append, length_singleton]
      omega
    rw [hdep, (readsBack e).disjunction _ _ (by simp) (by omega), disjunctionTail_stop (by simp)]
  have hne : ∀ more, e.tokens ++ [.eof] ≠ .eof :: more := by
    intro more heq
    rw [hts, cons_append] at heq
    exact ht (cons.inj heq).1
  rw [parseTokens, hread]
  all_goals grind

lemma parse_print_eq_parseTokens (h : e.IsWritable) (limit : Nat) :
    parse e.print limit = ⟨e.print, (parseTokens (e.tokens ++ [.eof]) limit).1,
      (parseTokens (e.tokens ++ [.eof]) limit).2⟩ := by
  obtain ⟨t, ts, hts, _⟩ := e.tokens_eq_cons
  exact parse_intercalate (Expr.forall₂_spells h) (by simp [Expr.printTokens_eq_map, hts]) limit

variable {limit : Nat}

lemma parse_print_of_nesting_le (h : e.IsWritable) (hnes : e.nesting ≤ limit) :
    parse e.print limit = ⟨e.print, some e, []⟩ := by
  rw [parse_print_eq_parseTokens h, parseTokens_tokens, if_pos hnes]

lemma parse_print_of_lt_nesting (h : e.IsWritable) (hnes : limit < e.nesting) :
    parse e.print limit = ⟨e.print, none, [.unreadable .tooNested]⟩ := by
  rw [parse_print_eq_parseTokens h, parseTokens_tokens, if_neg (Nat.not_le.mpr hnes)]

/-- **Round trip.** Parsing the printed form of an expression gives the expression back, without
problems, as long as its parentheses stand inside each other at most as often as the limit allows; a
filter with more of them is refused for that one reason. -/
theorem parse_print (e : Expr) (h : e.IsWritable) (limit : Nat) :
    parse e.print limit =
      if e.nesting ≤ limit then ⟨e.print, some e, []⟩
      else ⟨e.print, none, [.unreadable .tooNested]⟩ := by
  split
  · next hle => exact parse_print_of_nesting_le h hle
  · next hlt => exact parse_print_of_lt_nesting h (Nat.not_le.mp hlt)

/-- A filter with every kind of parenthesis that the printer writes. -/
theorem parse_print_mixed :
    parse "costs.provider = 'aws' AND NOT ( costs.amount > -5 OR costs.region NOT IN ( 'us' , NULL ) )" =
      ⟨"costs.provider = 'aws' AND NOT ( costs.amount > -5 OR costs.region NOT IN ( 'us' , NULL ) )",
        some (.logical .and (.condition "costs.provider" (.compare .eq (.text "aws")))
          (.negation (.logical .or (.condition "costs.amount" (.compare .gt (.int (-5))))
            (.condition "costs.region" (.member true [.text "us", .null]))))), []⟩ := by
  have hpri : (Expr.logical .and (.condition "costs.provider" (.compare .eq (.text "aws")))
      (.negation (.logical .or (.condition "costs.amount" (.compare .gt (.int (-5))))
        (.condition "costs.region" (.member true [.text "us", .null]))))).print =
      "costs.provider = 'aws' AND NOT ( costs.amount > -5 OR costs.region NOT IN ( 'us' , NULL ) )" := by
    decide
  rw [← hpri, parse_print _ (by decide), if_pos (by decide)]

/-- Not every printed expression is read back: one with 301 negations inside each other is refused. -/
theorem parse_print_negations :
    (Expr.negation^[301] (.condition "costs.amount" (.compare .eq (.int 1)))).IsWritable ∧
      parse (Expr.negation^[301] (.condition "costs.amount" (.compare .eq (.int 1)))).print =
        ⟨(Expr.negation^[301] (.condition "costs.amount" (.compare .eq (.int 1)))).print, none,
          [.unreadable .tooNested]⟩ := by
  have hwri : (Expr.negation^[301] (.condition "costs.amount" (.compare .eq (.int 1)))).IsWritable := by
    decide
  exact ⟨hwri, parse_print_of_lt_nesting hwri (by decide +kernel)⟩

end CloudSpend.Filter
