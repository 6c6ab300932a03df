import CloudSpend.Proofs.Filter.Operands

/-! # The names that filters can use -/

namespace CloudSpend.Filter

open List
open CloudSpend.Text

def IsOpen (cs : List Char) : Prop := ∃ before inside, cs = before ++ '[' :: inside ∧ ']' ∉ inside

lemma not_isOpen_nil : ¬ IsOpen [] := by
  rintro ⟨before, inside, h, -⟩
  simp at h

lemma isOpen_concat_iff (cs : List Char) (c : Char) :
    IsOpen (cs ++ [c]) ↔ c = '[' ∨ (IsOpen cs ∧ c ≠ ']') := by
  constructor
  · rintro ⟨before, inside, h, hclo⟩
    rcases eq_nil_or_concat' inside with rfl | ⟨inside, d, rfl⟩
    · obtain ⟨-, hc⟩ := append_inj' h rfl
      exact .inl (singleton_inj.mp hc)
    · rw [← cons_append, ← append_assoc] at h
      obtain ⟨hcs, hc⟩ := append_inj' h rfl
      obtain rfl : c = d := singleton_inj.mp hc
      simp only [mem_append, mem_singleton, not_or] at hclo
      exact .inr ⟨⟨before, inside, hcs, hclo.1⟩, Ne.symm hclo.2⟩
  · rintro (rfl | ⟨⟨before, inside, rfl, hclo⟩, hc⟩)
    · exact ⟨cs, [], rfl, by simp⟩
    · exact ⟨before, inside ++ [c], by simp, by simp [hclo, Ne.symm hc]⟩

variable {cs w after : List Char} {bracketed : Bool} {c : Char} {f : String} {t : Token} {us vs : List Token}

lemma bne_iff_isOpen_concat (h : IsOpen cs) (c : Char) : (c != ']') = true ↔ IsOpen (cs ++ [c]) := by
  rw [isOpen_concat_iff, bne_iff_ne]
  grind

lemma beq_iff_isOpen_concat (h : ¬ IsOpen cs) (c : Char) : (c == '[') = true ↔ IsOpen (cs ++ [c]) := by
  simp [isOpen_concat_iff, h]

structure IsWord (cs : List Char) : Prop where
  parts : ∀ before c after, cs = before ++ c :: after → isWordPart c = true ∨ IsOpen before
  closed : ¬ IsOpen cs

/-! The lexer walks over a word with the brackets of what it has passed in mind: `before` in the next
two lemmas, which are inductions over the rest of the word. -/

lemma wordBody_append_of_parts (before : List Char)
    (hbef : bracketed = true ↔ IsOpen before)
    (hpar : ∀ u c v, cs = u ++ c :: v → isWordPart c = true ∨ IsOpen (before ++ u))
    (hclo : ¬ IsOpen (before ++ cs)) : wordBody bracketed (cs ++ [' ']) = (cs, [' ']) := by
  induction cs generalizing bracketed before with
  | nil =>
    obtain rfl : bracketed = false := by
      rw [append_nil, ← hbef] at hclo
      simpa using hclo
    rfl
  | cons c cs ih =>
    have hnext : ∀ {b : Bool}, (b = true ↔ IsOpen (before ++ [c])) →
        wordBody b (cs ++ [' ']) = (cs, [' ']) := by
      intro b hb
      refine ih (before ++ [c]) hb (fun u d v hcs => ?_) (by simpa using hclo)
      have hd := hpar (c :: u) d v (by rw [hcs, cons_append])
      simpa using hd
    cases bracketed with
    | true =>
      rw [cons_append, wordBody, hnext (bne_iff_isOpen_concat (hbef.mp rfl) c)]
    | false =>
      have hshut : ¬ IsOpen before := fun h => by simpa using hbef.mpr h
      have hpart : isWordPart c = true := by
        have hc := hpar [] c cs rfl
        rw [append_nil] at hc
        exact hc.resolve_right hshut
      rw [cons_append, wordBody, if_pos hpart, hnext (beq_iff_isOpen_concat hshut c)]

lemma parts_of_wordBody (before : List Char) (hbef : bracketed = true ↔ IsOpen before)
    (h : wordBody bracketed cs = (w, after)) (haft : after ≠ []) :
    (∀ u c v, w = u ++ c :: v → isWordPart c = true ∨ IsOpen (before ++ u)) ∧
      ¬ IsOpen (before ++ w) := by
  induction cs generalizing bracketed before w with
  | nil =>
    cases h
    exact absurd rfl haft
  | cons c cs ih =>
    have hnext : ∀ {b : Bool} {w' : List Char}, (b = true ↔ IsOpen (before ++ [c])) →
        wordBody b cs = (w', after) → (isWordPart c = true ∨ IsOpen before) →
        (∀ u d v, c :: w' = u ++ d :: v → isWordPart d = true ∨ IsOpen (before ++ u)) ∧
          ¬ IsOpen (before ++ c :: w') := by
      intro b w' hb hw' hc
      obtain ⟨hpar, hclo⟩ := ih (before ++ [c]) hb hw'
      refine ⟨fun u d v hu => ?_, by simpa using hclo⟩
      cases u with
      | nil =>
        cases hu
        simpa using hc
      | cons e u =>
        cases hu
        simpa using hpar u d v rfl
    cases bracketed with
    | true =>
      have hopen : IsOpen before := hbef.mp rfl
      rw [wordBody] at h
      cases h
      exact hnext (bne_iff_isOpen_concat hopen c) rfl (.inr hopen)
    | false =>
      have hshut : ¬ IsOpen before := fun h => by simpa using hbef.mpr h
      rw [wordBody] at h
      split at h
      · next hpart =>
          cases h
          exact hnext (beq_iff_isOpen_concat hshut c) rfl (.inl hpart)
      · cases h
        exact ⟨by simp, by simpa using hshut⟩

structure IsField (f : String) : Prop where
  first : ∃ c ∈ f.toList.head?, isDigit c = false ∧ (isLetter c || c == '_') = true
  point : '.' ∈ f.toList
  isWord : IsWord f.toList

lemma isOrdinary_of_isLetter (h : (isLetter c || c == '_') = true) :
    isWordPart c = true ∧ isOrdinary c = true := by
  have hpart : isWordPart c = true := by
    simp only [isLetter, isWordPart, isWordChar, Char.isAlphanum, Bool.or_eq_true, Bool.and_eq_true]
      at h ⊢
    tauto
  refine ⟨hpart, ?_⟩
  have hmark : c ∉ ['(', ')', ',', '\'', '!', '=', '<', '>'] := by
    intro hmem
    have hmar : ['(', ')', ',', '\'', '!', '=', '<', '>'].all (fun d => !(isLetter d || d == '_')) = true := by
      decide
    simpa [h] using all_eq_true.mp hmar c hmem
  simpa [isOrdinary, isBlank_of_isWordPart hpart] using hmark

lemma isWord_of_wordBody (h : wordBody false cs = (w, after)) (haft : after ≠ []) : IsWord w := by
  obtain ⟨hpar, hclo⟩ :=
    parts_of_wordBody [] (by simp [not_isOpen_nil]) h haft
  exact ⟨hpar, hclo⟩

lemma spells_name (h : IsField f) : Spells f (.field f) := by
  obtain ⟨⟨c, hc, hdig, hlet⟩, hpoi, hword⟩ := h
  obtain ⟨cs, hcs⟩ : ∃ cs, f.toList = c :: cs := head?_eq_some_iff.mp hc
  obtain ⟨-, hord⟩ := isOrdinary_of_isLetter hlet
  have hnum : startsNumber (c :: (cs ++ [' '])) = false := by
    rw [← Bool.not_eq_true, startsNumber_iff]
    have hmin : c ≠ '-' := by
      rintro rfl
      exact absurd hlet (by decide)
    simp [hmin, hdig]
  have hbody : wordBody false (c :: (cs ++ [' '])) = (f.toList, [' ']) := by
    rw [← cons_append, ← hcs]
    exact wordBody_append_of_parts [] (by simp [not_isOpen_nil]) hword.parts hword.closed
  refine ⟨c, cs, hcs, ?_⟩
  rw [step_of_isOrdinary hord, hnum, hlet, hbody, String.ofList_toList, wordToken_of_point_mem hpoi]
  rfl

lemma isValue_of_numberToken {numeral : List Char} (h : numberToken numeral = .ok t) : t.isValue = true := by
  unfold numberToken at h
  dsimp only at h
  split at h
  · cases hx : (Value.text (String.ofList numeral)).toFloat <;> simp [hx, Except.map] at h
    rw [← h]
    rfl
  · cases hn : (Value.text (String.ofList numeral)).toInt <;> simp [hn, Except.map] at h
    rw [← h]
    rfl

lemma eq_of_wordToken {word : String} (h : wordToken word = .field f) : word = f ∧ '.' ∈ word.toList := by
  unfold wordToken at h
  grind

lemma field_of_step (h : step c cs = .ok (some (.field f), after)) :
    isDigit c = false ∧ (isLetter c || c == '_') = true ∧ '.' ∈ f.toList ∧
      wordBody false (c :: cs) = (f.toList, after) := by
  have hope : ∀ one two : Comparison, (c, one, two) ∈ operatorPairs → False := by
    intro one two hpair
    obtain ⟨htwo, hone⟩ := step_of_operatorPairs hpair
    by_cases hcs : ∀ d ∈ cs.head?, (d == '=') = false
    · cases (hone cs hcs).symm.trans h
    · cases cs with
      | nil => simp at hcs
      | cons d rest =>
        obtain rfl : d = '=' := by simpa using hcs
        cases (htwo rest).symm.trans h
  rcases isOrdinary_or c with hc | hbla | hc
  · rw [step_of_isOrdinary hc] at h
    split at h
    · cases ht : numberToken (splitNumber (c :: cs)).1 with
      | error e => simp [ht, Except.map] at h
      | ok t =>
        rw [ht] at h
        cases h
        cases isValue_of_numberToken ht
    · next hnum =>
        split at h
        · next hlet =>
            simp only [Except.ok.injEq, Prod.mk.injEq, Option.some.injEq] at h
            obtain ⟨htok, haft⟩ := h
            obtain ⟨hword, hpoi⟩ := eq_of_wordToken htok
            have hbody : (wordBody false (c :: cs)).1 = f.toList := by
              rw [← hword, String.toList_ofList]
            rw [startsNumber_iff, not_or] at hnum
            have hmin : c ≠ '-' := by
              rintro rfl
              exact absurd hlet (by decide)
            grind
        · cases h
  · cases (step_of_isBlank hbla cs).symm.trans h
  · simp only [mem_cons, not_mem_nil, or_false] at hc
    rcases hc with rfl | rfl | rfl | rfl | rfl | rfl | rfl | rfl
    · cases h
    · cases h
    · cases h
    · cases h
    · exact (hope .bang .ne (by decide)).elim
    · cases h
    · exact (hope .lt .le (by decide)).elim
    · exact (hope .gt .ge (by decide)).elim

theorem Lexes.isField {ls : List Lexeme} (h : Lexes cs ls) (hts : tokensOf ls = us ++ .field f :: t :: vs) :
    IsField f := by
  induction h generalizing us with
  | nil => simp [tokensOf] at hts
  | skip _ _ ih => exact ih (by simpa [tokensOf] using hts)
  | @take c w after u ls hstep more ih =>
    have htok : u :: tokensOf ls = us ++ .field f :: t :: vs := by simpa [tokensOf] using hts
    cases us with
    | cons v us => exact ih (List.cons.inj htok).2
    | nil =>
      obtain ⟨rfl, hmore⟩ := List.cons.inj htok
      have haft : after ≠ [] := by
        rintro rfl
        cases more
        simp [tokensOf] at hmore
      obtain ⟨hdig, hlet, hpoi, hbody⟩ := field_of_step hstep
      obtain ⟨hpart, -⟩ := isOrdinary_of_isLetter hlet
      have hhead : f.toList.head? = some c := by
        rw [wordBody, if_pos hpart] at hbody
        rw [← (Prod.mk.inj hbody).1]
        rfl
      exact ⟨⟨c, hhead, hdig, hlet⟩, hpoi, isWord_of_wordBody hbody haft⟩

lemma Asked.tokens_ne_nil (a : Asked) : ∃ t ts, a.tokens = t :: ts ∧ t ≠ .eof := by
  cases a with
  | compare op operand => exact ⟨_, _, rfl, Token.noConfusion⟩
  | like operand => exact ⟨_, _, rfl, Token.noConfusion⟩
  | member items => cases items <;> exact ⟨_, _, rfl, Token.noConfusion⟩

lemma Phrase.exists_tokens_eq (p : Phrase) {c : Clause} (hc : c ∈ p.clauses) :
    ∃ us t vs, p.tokens = us ++ .field c.field :: t :: vs ∧ t ≠ .eof := by
  induction p with
  | clause d =>
    obtain rfl : c = d := mem_singleton.mp hc
    obtain ⟨t, ts, hts, ht⟩ := c.asked.tokens_ne_nil
    simp only [tokens, Clause.tokens, hts]
    cases c.negated with
    | true => exact ⟨[], .negation, t :: ts, rfl, Token.noConfusion⟩
    | false => exact ⟨[], t, ts, rfl, ht⟩
  | enclosed p ih =>
    obtain ⟨us, t, vs, hp, ht⟩ := ih hc
    exact ⟨.lparen :: us, t, vs ++ [.rparen], by simp [tokens, hp], ht⟩
  | negation p ih =>
    obtain ⟨us, t, vs, hp, ht⟩ := ih hc
    exact ⟨.negation :: us, t, vs, by simp [tokens, hp], ht⟩
  | joined op l r ihl ihr =>
    rcases mem_append.mp hc with hc | hc
    · obtain ⟨us, t, vs, hp, ht⟩ := ihl hc
      exact ⟨us, t, vs ++ .logical op :: r.tokens, by simp [tokens, hp], ht⟩
    · obtain ⟨us, t, vs, hp, ht⟩ := ihr hc
      exact ⟨l.tokens ++ .logical op :: us, t, vs, by simp [tokens, hp], ht⟩

lemma exists_append_of_concat_eof {ts : List Token} {a : Token} (h : ts ++ [.eof] = us ++ a :: t :: vs)
    (ht : t ≠ .eof) : ∃ vs', ts = us ++ a :: t :: vs' := by
  rcases eq_nil_or_concat' vs with rfl | ⟨vs, d, rfl⟩
  · rw [show us ++ [a, t] = (us ++ [a]) ++ [t] by simp] at h
    exact absurd (singleton_inj.mp (append_inj' h rfl).2).symm ht
  · rw [show us ++ a :: t :: (vs ++ [d]) = (us ++ a :: t :: vs) ++ [d] by simp] at h
    exact ⟨vs, (append_inj' h rfl).1⟩

lemma isField_of_mem_conditions {filter : String} {c : String × Test}
    (hc : c ∈ (parse filter).conditions) : IsField c.1 := by
  unfold Query.conditions Query.searched at hc
  split at hc
  · next hval =>
      cases he : (parse filter).expression with
      | none => simp [he] at hc
      | some e =>
        obtain ⟨ts, htok, hpar⟩ := parseTokens_of_isValid hval
        rw [he] at hpar
        obtain ⟨p, hts, rfl, -⟩ := exists_phrase hpar
        rw [he, Option.elim_some, Phrase.conditions_expr] at hc
        obtain ⟨d, hd, rfl⟩ := mem_map.mp hc
        obtain ⟨us, t, vs, hp, ht⟩ := p.exists_tokens_eq hd
        rw [hp, append_assoc, cons_append, cons_append] at hts
        obtain ⟨vs', rfl⟩ := exists_append_of_concat_eof hts ht
        obtain ⟨ls, hls, htke⟩ := tokens_eq_ok_iff.mp htok
        exact hls.isField htke
  · simp at hc

def equalsOne (f : String) : String := " ".intercalate [f, Comparison.eq.text, toString (1 : Int)]

lemma validate_equalsOne (h : IsField f) : validate (equalsOne f) = (true, []) ∧
      (parse (equalsOne f)).conditions = [(f, .compare .eq (.int 1))] := by
  have hwor : List.Forall₂ Spells [f, Comparison.eq.text, toString (1 : Int)]
      [.field f, .operator .eq, .value (.int 1)] :=
    .cons (spells_name h) (.cons (spells_comparison .eq) (.cons (spells_int 1 (by decide)) .nil))
  obtain ⟨-, hval, he⟩ := validate_intercalate hwor (by simp)
    (e := .condition f (.compare .eq (.int 1))) rfl
  have hisV : (parse (equalsOne f)).isValid = true := isValid_of_validate hval
  refine ⟨hval, ?_⟩
  rw [Query.conditions, Query.searched, if_pos hisV, equalsOne, he]
  rfl

lemma exists_valid_iff (f : String) :
    (∃ filter, validate filter = (true, []) ∧ ∃ t, (f, t) ∈ (parse filter).conditions) ↔
      IsField f := by
  constructor
  · rintro ⟨filter, -, t, hmem⟩
    exact isField_of_mem_conditions hmem
  · intro h
    obtain ⟨hval, hcon⟩ := validate_equalsOne h
    exact ⟨equalsOne f, hval, .compare .eq (.int 1), by simp [hcon]⟩

end CloudSpend.Filter
