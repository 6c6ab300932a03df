import CloudSpend.Proofs.Filter.Lexemes
import Mathlib.Data.List.Forall2

/-! # Words and the tokens they spell -/

namespace CloudSpend.Filter

open List
open CloudSpend.Text

def Spells (word : String) (t : Token) : Prop :=
  ∃ c cs, word.toList = c :: cs ∧ step c (cs ++ [' ']) = .ok (some t, [' '])

variable {c : Char} {cs : List Char} {t : Token} {ts : List Token} {ws : List String} {word : String}

lemma Spells.takes (h : Spells word t) : ∃ c cs, word.toList = c :: cs ∧ Takes c cs [' '] t := by
  obtain ⟨c, cs, hcs, hstep⟩ := h
  exact ⟨c, cs, hcs, takes_of_step hstep⟩

lemma lexes_intercalate (h : Forall₂ Spells ws ts) :
    ∃ ls, Lexes (" ".intercalate ws).toList ls ∧ tokensOf ls = ts ∧ Clean ls := by
  induction h with
  | nil => exact ⟨[], by simpa using Lexes.nil, rfl, by simp, by simp⟩
  | @cons w t ws ts hw hws ih =>
    obtain ⟨c, cs, hcs, htak⟩ := hw.takes
    have hlast := htak.last (by simp)
    obtain ⟨ls, hls, htok, hcle⟩ := ih
    cases ws with
    | nil =>
      cases hws
      have hone : Lexes (c :: (cs ++ [])) [⟨c :: cs, some t⟩] :=
        .take (htak.step_eq [] ⟨by simp, by simp⟩) .nil
      refine ⟨_, by simpa [hcs] using hone, rfl, by simp, by simpa using hlast⟩
    | cons v ws =>
      refine ⟨⟨c :: cs, some t⟩ :: ⟨[' '], none⟩ :: ls, ?_, by simpa [tokensOf] using htok, ?_, ?_⟩
      · rw [String.intercalate_cons_cons, String.toList_append, String.toList_append, hcs, cons_append, cons_append,
          append_assoc]
        exact .take (htak.step_eq _ ⟨by simp, by simp⟩) (.skip rfl hls)
      · simpa using ⟨rfl, hcle.blank⟩
      · simpa using ⟨hlast, hcle.last⟩

lemma tokens_intercalate (h : Forall₂ Spells ws ts) : tokens (" ".intercalate ws) = .ok ts := by
  obtain ⟨ls, hls, htok, -⟩ := lexes_intercalate h
  exact tokens_eq_ok_iff.mpr ⟨ls, hls, htok⟩

lemma parse_intercalate (h : Forall₂ Spells ws ts) (hne : ws ≠ []) (limit : Nat) :
    parse (" ".intercalate ws) limit = ⟨" ".intercalate ws,
      (parseTokens (ts ++ [.eof]) limit).1, (parseTokens (ts ++ [.eof]) limit).2⟩ := by
  obtain ⟨ls, hls, rfl, hcle⟩ := lexes_intercalate h
  have htok := hls.trimmed hcle
  rw [String.ofList_toList] at htok
  refine parse_of_tokens htok (fun hnil => hne ?_) limit
  rw [hnil] at h
  cases h
  rfl

lemma validate_intercalate {e : Expr} (h : Forall₂ Spells ws ts) (hne : ws ≠ [])
    (hacc : parseTokens (ts ++ [.eof]) = (some e, [])) :
    tokens (" ".intercalate ws) = .ok ts ∧ validate (" ".intercalate ws) = (true, []) ∧
      (parse (" ".intercalate ws)).expression = some e := by
  rw [tokens_intercalate h, validate, parse_intercalate h hne, hacc]
  exact ⟨rfl, rfl, rfl⟩

lemma parse_of_valid {s : String} {e : Expr} (h : (parse s).expression = some e ∧ (parse s).isValid = true) :
    parse s = ⟨s, some e, []⟩ := by
  have hraw : (parse s).raw = s := by
    unfold parse
    grind
  rcases hpar : parse s with ⟨raw, expression, problems⟩
  simp_all [Query.isValid]

lemma spells_comparison (op : Comparison) : Spells op.text (.operator op) := by
  cases op <;> exact ⟨_, _, rfl, rfl⟩

def opensWord (c : Char) : Bool := c.isAlpha || c == '_'

lemma isPlainPart_of_opensWord (h : opensWord c = true) : isPlainPart c = true := by
  simp only [opensWord, isPlainPart, Char.isAlphanum, Bool.or_eq_true] at h ⊢
  tauto

lemma step_of_opensWord (h : opensWord c = true) (cs : List Char) :
    step c cs = .ok (some (wordToken (String.ofList (wordBody false (c :: cs)).1)),
      (wordBody false (c :: cs)).2) := by
  obtain ⟨hord, hmin, hdig, hlet⟩ :
      isOrdinary c = true ∧ c ≠ '-' ∧ isDigit c = false ∧ (isLetter c || c == '_') = true :=
    of_isPlainPart (p := fun c => opensWord c = true → isOrdinary c = true ∧ c ≠ '-' ∧
      isDigit c = false ∧ (isLetter c || c == '_') = true) (by decide)
      (isPlainPart_of_opensWord h) h
  have hnum : startsNumber (c :: cs) = false := by
    unfold startsNumber
    split <;> simp_all
  rw [step_of_isOrdinary hord, hnum, hlet]
  rfl

lemma wordBody_append (h : ∀ c ∈ cs, isPlainPart c = true) :
    wordBody false (cs ++ [' ']) = (cs, [' ']) := by
  induction cs with
  | nil => rfl
  | cons c cs ih =>
    have hc := h c (by simp)
    obtain ⟨hpart, hopen⟩ : isWordPart c = true ∧ (c == '[') = false :=
      of_isPlainPart (p := fun c => isWordPart c = true ∧ (c == '[') = false) (by decide) hc
    have hmore := ih fun d hd => h d (by simp [hd])
    rw [cons_append, wordBody, if_pos hpart, hopen, hmore]

lemma spells_word (word : String) (hword : word.toList = c :: cs) (hopen : opensWord c = true)
    (hall : ∀ d ∈ cs, isPlainPart d = true) : Spells word (wordToken word) := by
  have hpar : ∀ d ∈ c :: cs, isPlainPart d = true := by
    simpa using ⟨isPlainPart_of_opensWord hopen, hall⟩
  refine ⟨c, cs, hword, ?_⟩
  rw [step_of_opensWord hopen, ← cons_append, wordBody_append hpar, ← hword, String.ofList_toList]

def escape : List Char → List Char
  | [] => []
  | c :: cs => if c = '\'' ∨ c = '\\' then '\\' :: c :: escape cs else c :: escape cs

lemma escape_eq_self_iff : escape cs = cs ↔ '\'' ∉ cs ∧ '\\' ∉ cs := by
  induction cs with
  | nil => simp [escape]
  | cons c cs ih =>
    rw [escape]
    split
    · next hc =>
        have hlen : ∀ ds : List Char, ds.length ≤ (escape ds).length := by
          intro ds
          induction ds with
          | nil => exact le_rfl
          | cons d ds ih => grind [escape]
        grind
    · grind

lemma textBody_escape (cs rest : List Char) : textBody (escape cs ++ '\'' :: rest) = (escape cs, rest) := by
  induction cs with
  | nil => rfl
  | cons c cs ih =>
    rw [escape]
    split
    · rw [cons_append, cons_append, textBody, ih]
    · next hc =>
        rw [not_or] at hc
        rw [cons_append, textBody, ih]
        · exact hc.1
        · exact fun d more h => absurd h hc.2

def quoted (s : String) : String := "'" ++ String.ofList (escape s.toList) ++ "'"

lemma spells_quoted (s : String) : Spells (quoted s) (.value (.text (String.ofList (escape s.toList)))) := by
  have hstep : ∀ rest, step '\'' rest =
      .ok (some (.value (.text (String.ofList (textBody rest).1))), (textBody rest).2) := fun _ => rfl
  refine ⟨'\'', escape s.toList ++ ['\''], by simp [quoted], ?_⟩
  rw [append_assoc, cons_append, nil_append, hstep, textBody_escape]

lemma spells_text {s : String} (hquo : '\'' ∉ s.toList) (hback : '\\' ∉ s.toList) :
    Spells ("'" ++ s ++ "'") (.value (.text s)) := by
  have hspe := spells_quoted s
  rwa [quoted, escape_eq_self_iff.mpr ⟨hquo, hback⟩, String.ofList_toList] at hspe

lemma tokenize_quoted (s : String) :
    tokenize (quoted s) = .ok [.value (.text (String.ofList (escape s.toList))), .eof] := by
  have htok := tokens_intercalate (.cons (spells_quoted s) .nil)
  rw [String.intercalate_singleton] at htok
  rw [tokenize, htok]
  rfl

/-- A quoted text is one token. Its value keeps the backslashes that escape, so it is the text itself exactly if there
is nothing to escape. -/
theorem tokenize_quoted_iff (s : String) :
    tokenize (quoted s) = .ok [.value (.text (String.ofList (escape s.toList))), .eof] ∧
      (tokenize (quoted s) = .ok [.value (.text s), .eof] ↔ '\'' ∉ s.toList ∧ '\\' ∉ s.toList) := by
  refine ⟨tokenize_quoted s, ?_⟩
  rw [tokenize_quoted, ← escape_eq_self_iff]
  simp only [Except.ok.injEq, cons.injEq, Token.value.injEq, Literal.text.injEq, and_true]
  exact ⟨fun h => by simpa using congrArg String.toList h, fun h => by rw [h, String.ofList_toList]⟩

/-- A quote is read back with the backslash before it. -/
theorem quote_not_read_back : tokenize "'\\''" = .ok [.value (.text "\\'"), .eof] ∧
    quoted "'" = "'\\''" ∧ tokenize "'\\''" ≠ .ok [.value (.text "'"), .eof] := by
  have hread := tokenize_quoted "'"
  have hquo : quoted "'" = "'\\''" := by decide
  rw [hquo] at hread
  refine ⟨hread, hquo, fun h => ?_⟩
  have hsame := h.symm.trans hread
  simp [escape] at hsame

lemma span_digits {ds : List Char} (h : ∀ c ∈ ds, c.isDigit) :
    (ds ++ [' ']).takeWhile isNumberPart = ds ∧ (ds ++ [' ']).dropWhile isNumberPart = [' '] := by
  have hpart : ∀ c ∈ ds, isNumberPart c = true := fun c hc => by simp [isNumberPart, isDigit, h c hc]
  rw [takeWhile_append_of_pos hpart, dropWhile_append_of_pos hpart]
  simp [show isNumberPart ' ' = false from rfl]

lemma numberToken_toString {n : Int}
    (h : (Nat.toDigits 10 n.natAbs).length ≤ Numeral.maxDigits) :
    numberToken (toString n).toList = .ok (.value (.int n)) := by
  have hpoi : '.' ∉ (toString n).toList := by
    intro hmem
    rcases Numeral.sign_or_digit_of_mem hmem with heq | hdig
    · simp at heq
    · simp at hdig
  unfold numberToken
  simp only [contains_iff_mem, hpoi, String.ofList_toList, Numeral.toInt_toString n h]
  rfl

lemma spells_int (n : Int) (h : (Nat.toDigits 10 n.natAbs).length ≤ Numeral.maxDigits) :
    Spells (toString n) (.value (.int n)) := by
  have htok := numberToken_toString h
  have hdig : ∀ c ∈ Nat.toDigits 10 n.natAbs, c.isDigit := fun c hc => Numeral.isDigit_of_mem_decimal hc
  obtain ⟨d, ds, hds⟩ := exists_cons_of_ne_nil (Nat.toDigits_ne_nil (n := n.natAbs) (b := 10))
  have hd : d.isDigit := hdig d (by simp [hds])
  obtain ⟨htake, hdrop⟩ := span_digits hdig
  by_cases hn : n < 0
  · -- a minus sign before the digits
    rw [Numeral.toList_toString_int, if_pos hn] at htok
    refine ⟨'-', Nat.toDigits 10 n.natAbs, by rw [Numeral.toList_toString_int, if_pos hn], ?_⟩
    have hnum : startsNumber ('-' :: (Nat.toDigits 10 n.natAbs ++ [' '])) = true := by
      simp [hds, startsNumber, isDigit, hd]
    rw [step_of_isOrdinary rfl, hnum, splitNumber, htake, hdrop, htok]
    rfl
  · -- the digits alone
    rw [Numeral.toList_toString_int, if_neg hn] at htok
    refine ⟨d, ds, by rw [Numeral.toList_toString_int, if_neg hn, hds], ?_⟩
    obtain ⟨hord, hmin⟩ : isOrdinary d = true ∧ d ≠ '-' :=
      of_isPlainPart (p := fun c => c.isDigit = true → isOrdinary c = true ∧ c ≠ '-') (by decide)
        (by simp [isPlainPart, Char.isAlphanum, hd]) hd
    have hnum : startsNumber (d :: (ds ++ [' '])) = true := by
      rw [startsNumber_iff]
      exact .inr ⟨hmin, by simp [isDigit, hd]⟩
    rw [step_of_isOrdinary hord, hnum, splitNumber_of_startsNumber hnum]
    rw [hds, cons_append, takeWhile_cons_of_pos (by simp [isNumberPart, isDigit, hd])] at htake
    rw [hds, cons_append, dropWhile_cons_of_pos (by simp [isNumberPart, isDigit, hd])] at hdrop
    rw [htake, hdrop, ← hds, htok]
    rfl

end CloudSpend.Filter
