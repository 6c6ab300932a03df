import CloudSpend.Proofs.Filter.Words

/-! # The tokens of a printed filter -/

namespace CloudSpend.Filter

open List Token
open CloudSpend.Text

def IsFieldName (f : String) : Prop :=
  (∃ c ∈ f.toList.head?, opensWord c = true) ∧ (∀ c ∈ f.toList, isPlainPart c = true) ∧ '.' ∈ f.toList

instance : DecidablePred IsFieldName := fun f =>
  decidable_of_iff
    (f.toList.head?.any opensWord = true ∧ f.toList.all isPlainPart = true ∧ '.' ∈ f.toList)
    (by simp [IsFieldName, Option.any_eq_true])

def Literal.IsWritable : Literal → Prop
  | .text s => '\'' ∉ s.toList ∧ '\\' ∉ s.toList
  | .int n => (Nat.toDigits 10 n.natAbs).length ≤ Numeral.maxDigits
  | .float _ => False
  | .bool _ => True
  | .null => True

instance : DecidablePred Literal.IsWritable
  | .text _ => inferInstanceAs (Decidable (_ ∧ _))
  | .int _ => inferInstanceAs (Decidable (_ ≤ _))
  | .float _ => inferInstanceAs (Decidable False)
  | .bool _ => inferInstanceAs (Decidable True)
  | .null => inferInstanceAs (Decidable True)

def Test.IsWritable : Test → Prop
  | .compare op v => op ≠ .bang ∧ v.IsWritable
  | .like _ v => v.IsWritable
  | .member _ vs => ∀ v ∈ vs, v.IsWritable

instance : DecidablePred Test.IsWritable
  | .compare _ _ => inferInstanceAs (Decidable (_ ∧ _))
  | .like _ v => inferInstanceAs (Decidable v.IsWritable)
  | .member _ vs => inferInstanceAs (Decidable (∀ v ∈ vs, v.IsWritable))

def Expr.IsWritable : Expr → Prop
  | .condition f t => IsFieldName f ∧ t.IsWritable
  | .logical _ l r => l.IsWritable ∧ r.IsWritable
  | .negation e => e.IsWritable

instance Expr.decidableIsWritable : DecidablePred Expr.IsWritable
  | .condition _ _ => inferInstanceAs (Decidable (_ ∧ _))
  | .logical _ l r =>
    have := decidableIsWritable l
    have := decidableIsWritable r
    inferInstanceAs (Decidable (_ ∧ _))
  | .negation e => decidableIsWritable e

def literalTokens : List Literal → List Token
  | [] => []
  | [v] => [.value v]
  | v :: rest => .value v :: .comma :: literalTokens rest

def Test.tokens : Test → List Token
  | .compare op v => [.operator op, .value v]
  | .like negated v => (if negated then [.negation] else []) ++ [.like, .value v]
  | .member negated vs =>
    (if negated then [.negation] else []) ++ [.member, .lparen] ++ literalTokens vs ++ [.rparen]

def enclose (required level : Nat) (ts : List Token) : List Token :=
  if required ≤ level then ts else .lparen :: (ts ++ [.rparen])

def Expr.tokens : Expr → List Token
  | .condition f t => .field f :: t.tokens
  | .logical .or l r =>
    enclose 0 l.level l.tokens ++ .logical .or :: enclose 1 r.level r.tokens
  | .logical .and l r =>
    enclose 1 l.level l.tokens ++ .logical .and :: enclose 2 r.level r.tokens
  | .negation e => .negation :: enclose 3 e.level e.tokens

def Token.spelling : Token → String
  | .field name => name
  | .operator op => op.text
  | .value v => v.print
  | .logical c => c.text
  | .lparen => "("
  | .rparen => ")"
  | .member => "IN"
  | .negation => "NOT"
  | .like => "LIKE"
  | .comma => ","
  | .eof => ""

def Token.IsWritable : Token → Prop
  | .field name => IsFieldName name
  | .operator op => op ≠ .bang
  | .value v => v.IsWritable
  | .eof => False
  | _ => True

lemma map_spelling_literalTokens (vs : List Literal) :
    (literalTokens vs).map spelling = printLiterals vs := by
  induction vs using literalTokens.induct with
  | case1 => rfl
  | case2 v => rfl
  | case3 v rest hne ih => simp [literalTokens, printLiterals, ih, spelling]

lemma map_spelling_test (t : Test) : t.tokens.map spelling = t.print := by
  cases t with
  | compare op v => rfl
  | like negated v => cases negated <;> rfl
  | member negated vs =>
    cases negated <;> simp [Test.tokens, Test.print, map_spelling_literalTokens, spelling]

lemma map_spelling_enclose (required level : Nat) (ts : List Token) :
    (enclose required level ts).map spelling =
      parenthesise required level (ts.map spelling) := by
  unfold enclose parenthesise
  split <;> simp [spelling]

lemma Expr.printTokens_eq_map (e : Expr) : e.printTokens = e.tokens.map spelling := by
  induction e with
  | condition f t => simp [printTokens, tokens, map_spelling_test, spelling]
  | logical op l r ihl ihr =>
    cases op <;> simp [printTokens, tokens, map_spelling_enclose, ihl, ihr, spelling]
  | negation e ih => simp [printTokens, tokens, map_spelling_enclose, ih, spelling]

variable {f : String} {e : Expr}

lemma wordToken_of_point_mem (h : '.' ∈ f.toList) : wordToken f = .field f := by
  have hpoi : '.' ∈ (upper f).toList := mem_upper_of_mem h rfl
  have hne : ∀ w : String, '.' ∉ w.toList → (upper f == w) = false := by
    intro w hw
    rw [beq_eq_false_iff_ne]
    rintro rfl
    exact hw hpoi
  unfold wordToken
  simp [hne "AND" (by decide), hne "OR" (by decide), hne "NOT" (by decide), hne "IN" (by decide),
    hne "LIKE" (by decide), hne "TRUE" (by decide), hne "FALSE" (by decide), hne "NULL" (by decide), h]

lemma spells_field (h : IsFieldName f) : Spells f (.field f) := by
  obtain ⟨⟨c, hc, hopen⟩, hall, hpoi⟩ := h
  obtain ⟨cs, hcs⟩ : ∃ cs, f.toList = c :: cs := head?_eq_some_iff.mp hc
  have hspe := spells_word f hcs hopen fun d hd => hall d (by simp [hcs, hd])
  rwa [wordToken_of_point_mem hpoi] at hspe

lemma spells_literal {v : Literal} (h : v.IsWritable) : Spells v.print (.value v) := by
  cases v with
  | text s => exact spells_text h.1 h.2
  | int n => exact spells_int n h
  | float x => exact h.elim
  | bool b => cases b <;> exact ⟨_, _, rfl, rfl⟩
  | null => exact ⟨_, _, rfl, rfl⟩

lemma Token.spells {t : Token} (h : t.IsWritable) : Spells t.spelling t := by
  cases t with
  | field name => exact spells_field h
  | operator op => exact spells_comparison op
  | value v => exact spells_literal h
  | logical c => cases c <;> exact ⟨_, _, rfl, rfl⟩
  | eof => exact h.elim
  | _ => exact ⟨_, _, rfl, rfl⟩

lemma isWritable_of_mem_literalTokens {vs : List Literal} (h : ∀ v ∈ vs, v.IsWritable) :
    ∀ t ∈ literalTokens vs, t.IsWritable := by
  induction vs using literalTokens.induct with
  | case1 => simp [literalTokens]
  | case2 v => simpa [literalTokens, Token.IsWritable] using h v (by simp)
  | case3 v rest _ ih =>
    have hrest := ih fun w hw => h w (by simp [hw])
    simp only [literalTokens, mem_cons]
    rintro t (rfl | rfl | ht)
    · exact h v (by simp)
    · trivial
    · exact hrest t ht

lemma isWritable_of_mem_test {t : Test} (h : t.IsWritable) : ∀ x ∈ t.tokens, x.IsWritable := by
  cases t with
  | compare op v => simpa [Test.tokens, Token.IsWritable, Test.IsWritable] using h
  | like negated v =>
    have hv : v.IsWritable := h
    cases negated <;> simp [Test.tokens, hv, Token.IsWritable]
  | member negated vs =>
    have hvs := isWritable_of_mem_literalTokens h
    intro x hx
    simp only [Test.tokens, mem_append, mem_cons, not_mem_nil, or_false] at hx
    rcases hx with ((hx | rfl | rfl) | hx) | rfl
    · cases negated <;> simp_all [Token.IsWritable]
    · trivial
    · trivial
    · exact hvs x hx
    · trivial

lemma isWritable_of_mem_enclose (required level : Nat) {ts : List Token}
    (h : ∀ t ∈ ts, t.IsWritable) : ∀ t ∈ enclose required level ts, t.IsWritable := by
  unfold enclose
  split
  · exact h
  · intro t ht
    simp only [mem_cons, mem_append, not_mem_nil, or_false] at ht
    rcases ht with rfl | ht | rfl
    · trivial
    · exact h t ht
    · trivial

lemma Expr.isWritable_of_mem_tokens (h : e.IsWritable) :
    ∀ t ∈ e.tokens, t.IsWritable := by
  induction e with
  | condition f t =>
    intro x hx
    rcases mem_cons.mp hx with rfl | hx
    · exact h.1
    · exact isWritable_of_mem_test h.2 x hx
  | logical op l r ihl ihr =>
    have hl := fun required => isWritable_of_mem_enclose required l.level (ihl h.1)
    have hr := fun required => isWritable_of_mem_enclose required r.level (ihr h.2)
    intro x hx
    cases op <;>
      simp only [tokens, mem_append, mem_cons] at hx <;>
      rcases hx with hx | rfl | hx
    · exact hl 1 x hx
    · trivial
    · exact hr 2 x hx
    · exact hl 0 x hx
    · trivial
    · exact hr 1 x hx
  | negation e ih =>
    intro x hx
    rcases mem_cons.mp hx with rfl | hx
    · trivial
    · exact isWritable_of_mem_enclose _ _ (ih h) x hx

lemma Expr.forall₂_spells (h : e.IsWritable) :
    List.Forall₂ Spells e.printTokens e.tokens := by
  rw [printTokens_eq_map, forall₂_map_left_iff, forall₂_same]
  exact fun t ht => spells (isWritable_of_mem_tokens h t ht)

end CloudSpend.Filter
