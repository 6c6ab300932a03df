import CloudSpend.Filter.Parser
import CloudSpend.Proofs.Numeral.Integer

/-! # One step of the lexer -/

namespace CloudSpend.Filter

open List
open CloudSpend.Text

variable {c : Char} {p : Char → Bool} {w cs : List Char} {t : Token} {one two : Comparison}
  {after after' : List Char}

def isPlainPart (c : Char) : Bool := c.isAlphanum || c == '_' || c == '.'

lemma toNat_lt_of_isPlainPart (h : isPlainPart c = true) : c.toNat < 128 := by
  have halp : c.isAlpha = true → c.isUpper = true ∨ c.isLower = true := Bool.or_eq_true_iff.mp
  have hupp : c.isUpper = true → c.toNat ≤ 90 := fun h => (of_decide_eq_true h).2
  have hlow : c.isLower = true → c.toNat ≤ 122 := fun h =>
    of_decide_eq_true (Bool.and_eq_true_iff.mp h).2
  have hdig : c.isDigit = true → c.toNat ≤ 57 := fun h =>
    of_decide_eq_true (Bool.and_eq_true_iff.mp h).2
  simp only [isPlainPart, Char.isAlphanum, Bool.or_eq_true, beq_iff_eq] at h
  rcases h with ((h | h) | rfl) | rfl
  all_goals grind

lemma of_isPlainPart {p : Char → Prop}
    (h : ∀ n < 128, isPlainPart (Char.ofNat n) = true → p (Char.ofNat n))
    (hc : isPlainPart c = true) : p c := by
  have := h c.toNat (toNat_lt_of_isPlainPart hc)
  rw [Char.ofNat_toNat] at this
  exact this hc

def isOrdinary (c : Char) : Bool :=
  !isBlank c && !(['(', ')', ',', '\'', '!', '=', '<', '>'].contains c)

lemma step_of_isOrdinary (h : isOrdinary c = true) (cs : List Char) : step c cs =
      if startsNumber (c :: cs) then
        (numberToken (splitNumber (c :: cs)).1).map fun t => (some t, (splitNumber (c :: cs)).2)
      else if isLetter c || c == '_' then
        .ok (some (wordToken (String.ofList (wordBody false (c :: cs)).1)),
          (wordBody false (c :: cs)).2)
      else .ok (none, cs) := by
  simp only [isOrdinary, Bool.and_eq_true, Bool.not_eq_true', contains_eq_mem, mem_cons,
    not_mem_nil, or_false, decide_eq_false_iff_not, not_or] at h
  have hop : splitOperator? (c :: cs) = none := by
    unfold splitOperator?
    split <;> simp_all
  unfold step
  simp [h, hop]

lemma inRanges_eq_false {rs ss : List (Nat × Nat)} (h : ∀ r ∈ rs, ∀ s ∈ ss, r.2 < s.1 ∨ s.2 < r.1)
    (hc : inRanges rs c = true) : inRanges ss c = false := by
  simp only [inRanges, any_eq_true, Bool.and_eq_true, decide_eq_true_eq] at hc
  obtain ⟨r, hr, hle, hge⟩ := hc
  simp only [inRanges, any_eq_false, Bool.and_eq_true, decide_eq_true_eq, not_and]
  intro s hs hsle
  rcases h r hr s hs with hlt | hlt <;> omega

lemma isAlphanum_of_isBlank (h : isBlank c = true) : c.isAlphanum = false := by
  by_contra halp
  have hpla : isPlainPart c = true := by simp [isPlainPart, Bool.not_eq_false _ ▸ halp]
  have hbla : isBlank c = false :=
    of_isPlainPart (p := fun c => isBlank c = false) (by decide) hpla
  simp [h] at hbla

lemma isBlank_of_isWordPart (h : isWordPart c = true) : isBlank c = false := by
  by_contra hc
  have hbla : inRanges blankRanges c = true := Bool.not_eq_false _ ▸ hc
  have hlet : inRanges letterRanges c = false := inRanges_eq_false (by decide +kernel) hbla
  have hnum : inRanges numericRanges c = false := inRanges_eq_false (by decide +kernel) hbla
  have hmar : c ≠ '_' ∧ c ≠ '.' ∧ c ≠ '[' ∧ c ≠ ']' ∧ c ≠ '\'' := by
    refine ⟨?_, ?_, ?_, ?_, ?_⟩ <;> rintro rfl <;> exact absurd hbla (by decide)
  simp [isWordPart, isWordChar, isAlphanum_of_isBlank hbla, hlet, hnum, hmar] at h

lemma isBlank_of_isNumberPart (h : isNumberPart c = true) : isBlank c = false := by
  by_contra hc
  have hbla : inRanges blankRanges c = true := Bool.not_eq_false _ ▸ hc
  have hdig : inRanges digitRanges c = false := inRanges_eq_false (by decide) hbla
  have halp : (c.isAlpha || c.isDigit) = false := isAlphanum_of_isBlank hbla
  have hdgi : c.isDigit = false := (Bool.or_eq_false_iff.mp halp).2
  have hpoi : c ≠ '.' := by
    rintro rfl
    exact absurd hbla (by decide)
  simp [isNumberPart, isDigit, hdig, hdgi, hpoi] at h

structure Replaces (after after' : List Char) : Prop where
  nil : after = [] → after' = []
  head : ∀ d ∈ after'.head?, d = ' ' ∨ d ∈ after.head?

lemma Replaces.stops (h : Replaces after after') (hbla : p ' ' = false)
    (hp : ∀ d ∈ after.head?, p d = false) : ∀ d ∈ after'.head?, p d = false := by
  intro d hd
  rcases h.head d hd with rfl | hmem
  · exact hbla
  · exact hp d hmem

lemma forall_getLast?_cons {p : Char → Prop} (hw : ∀ d ∈ w.getLast?, p d) (hc : w = [] → p c) :
    ∀ d ∈ (c :: w).getLast?, p d := by
  cases w with
  | nil => simpa using hc rfl
  | cons d w => simpa using hw

lemma textBody_spec (cs : List Char) :
    ∃ w, cs = w ++ (textBody cs).2 ∧
      (∀ after', Replaces (textBody cs).2 after' →
        textBody (w ++ after') = ((textBody cs).1, after')) ∧
      ((textBody cs).2 ≠ [] → w ≠ [] ∧ ∀ d ∈ w.getLast?, d = '\'') := by
  fun_induction textBody cs with
  | case1 =>
    refine ⟨[], rfl, fun after' h => ?_, fun h => absurd rfl h⟩
    simp [h.nil rfl, textBody]
  | case2 rest => exact ⟨['\''], rfl, fun _ _ => rfl, fun _ => by simp⟩
  | case3 c rest body after hbody ih =>
    rw [hbody] at ih
    obtain ⟨w, hw, hsame, hlast⟩ := ih
    refine ⟨'\\' :: c :: w, by rw [cons_append, cons_append, ← hw], ?_, ?_⟩
    · intro after' h
      simp [textBody, hsame after' h]
    all_goals grind
  | case4 c rest hquo hback body after hbody ih =>
    rw [hbody] at ih
    obtain ⟨w, hw, hsame, hlast⟩ := ih
    refine ⟨c :: w, by rw [cons_append, ← hw], ?_, ?_⟩
    · intro after' h
      rw [cons_append, textBody, hsame after' h]
      · exact hquo
      · -- a backslash that keeps nothing is the last character
        rintro d more rfl happ
        have hrest : rest = [] := by
          cases rest with
          | nil => rfl
          | cons d' more' => exact (hback d' more' rfl rfl).elim
        obtain ⟨rfl, rfl⟩ : w = [] ∧ after = [] := by simpa [hrest] using hw.symm
        simp [h.nil rfl] at happ
    all_goals grind

lemma wordBody_spec (bracketed : Bool) (cs : List Char) :
    cs = (wordBody bracketed cs).1 ++ (wordBody bracketed cs).2 ∧
      (∀ after', Replaces (wordBody bracketed cs).2 after' →
        wordBody bracketed ((wordBody bracketed cs).1 ++ after') =
          ((wordBody bracketed cs).1, after')) ∧
      ((wordBody bracketed cs).2 ≠ [] →
        (bracketed = true → (wordBody bracketed cs).1 ≠ []) ∧
          ∀ d ∈ (wordBody bracketed cs).1.getLast?, isWordPart d = true) := by
  fun_induction wordBody bracketed cs with
  | case1 b => exact ⟨rfl, fun after' h => by simp [h.nil rfl, wordBody], fun h => absurd rfl h⟩
  | case2 c rest body after hbody ih =>
    rw [hbody] at ih
    obtain ⟨hrest, hsame, hlast⟩ := ih
    refine ⟨by rw [cons_append, ← hrest], fun after' h => ?_, fun hne => ⟨by simp, ?_⟩⟩
    · rw [cons_append, wordBody, hsame after' h]
    · obtain ⟨hopen, hword⟩ := hlast hne
      refine forall_getLast?_cons hword fun hemp => ?_
      have hc : c = ']' := by
        by_contra hc
        exact hopen (by simpa using hc) hemp
      rw [hc]
      rfl
  | case3 c rest hc body after hbody ih =>
    rw [hbody] at ih
    obtain ⟨hrest, hsame, hlast⟩ := ih
    refine ⟨by rw [cons_append, ← hrest], fun after' h => ?_, fun hne => ⟨by simp, ?_⟩⟩
    · rw [cons_append, wordBody, if_pos hc, hsame after' h]
    · exact forall_getLast?_cons (hlast hne).2 fun _ => hc
  | case4 c rest hc =>
    refine ⟨rfl, fun after' h => ?_, fun _ => by simp⟩
    have hstop : ∀ d ∈ after'.head?, isWordPart d = false := h.stops rfl (by simpa using hc)
    cases after' with
    | nil => rfl
    | cons d more => simp [wordBody, hstop d (by simp)]

lemma takeWhile_spec (hbla : p ' ' = false)
    (h : Replaces (cs.dropWhile p) after') : (cs.takeWhile p ++ after').takeWhile p = cs.takeWhile p ∧
      (cs.takeWhile p ++ after').dropWhile p = after' := by
  have hall : ∀ d ∈ cs.takeWhile p, p d = true := fun d hd => mem_takeWhile_imp hd
  have hstop : ∀ d ∈ after'.head?, p d = false := by
    refine h.stops hbla fun d hd => ?_
    have hhead := head?_dropWhile_not p cs
    rw [hd] at hhead
    simpa using hhead
  rw [takeWhile_append_of_pos hall, dropWhile_append_of_pos hall]
  cases after' with
  | nil => simp
  | cons d more => simp [hstop d (by simp)]

def opensNothing (c : Char) : Bool := isOrdinary c && !isDigit c && !isLetter c && c != '_'

structure Takes (c : Char) (w after : List Char) (t : Token) : Prop where
  step_eq : ∀ after', Replaces after after' → step c (w ++ after') = .ok (some t, after')
  last : after ≠ [] → ∀ d ∈ (c :: w).getLast?, isBlank d = false
  ne_eof : t ≠ .eof

lemma takes_mark (hstep : ∀ rest, step c rest = .ok (some t, rest)) (hc : isBlank c = false)
    (ht : t ≠ .eof) (after : List Char) : Takes c [] after t where
  step_eq after' _ := hstep after'
  last _ := by simpa using hc
  ne_eof := ht

lemma takes_text (cs : List Char) :
    ∃ w, cs = w ++ (textBody cs).2 ∧
      Takes '\'' w (textBody cs).2 (.value (.text (String.ofList (textBody cs).1))) := by
  have hstep : ∀ rest, step '\'' rest =
      .ok (some (.value (.text (String.ofList (textBody rest).1))), (textBody rest).2) := fun _ => rfl
  obtain ⟨w, hw, hsame, hlast⟩ := textBody_spec cs
  refine ⟨w, hw, fun after' h => ?_, fun hne => ?_, Token.noConfusion⟩
  · rw [hstep, hsame after' h]
  · obtain ⟨hw', hquo⟩ := hlast hne
    refine forall_getLast?_cons (fun d hd => ?_) fun h => absurd h hw'
    rw [hquo d hd]
    rfl

def operatorPairs : List (Char × Comparison × Comparison) :=
  [('!', .bang, .ne), ('<', .lt, .le), ('>', .gt, .ge)]

lemma step_of_operatorPairs (h : (c, one, two) ∈ operatorPairs) :
    (∀ rest, step c ('=' :: rest) = .ok (some (.operator two), rest)) ∧
      ∀ rest, (∀ d ∈ rest.head?, (d == '=') = false) →
        step c rest = .ok (some (.operator one), rest) := by
  simp only [operatorPairs, mem_cons, Prod.mk.injEq, not_mem_nil, or_false] at h
  have hne : ∀ {rest : List Char}, (∀ d ∈ rest.head?, (d == '=') = false) →
      ∀ more, rest = '=' :: more → False := by
    rintro _ hrest more rfl
    simp at hrest
  rcases h with ⟨rfl, rfl, rfl⟩ | ⟨rfl, rfl, rfl⟩ | ⟨rfl, rfl, rfl⟩ <;>
    refine ⟨fun _ => rfl, fun rest hrest => ?_⟩
  · have hspl := splitOperator?.eq_4 rest (hne hrest)
    simp [step, hspl, show isBlank '!' = false from rfl]
  · have hspl := splitOperator?.eq_6 rest (hne hrest)
    simp [step, hspl, show isBlank '<' = false from rfl]
  · have hspl := splitOperator?.eq_7 rest (hne hrest)
    simp [step, hspl, show isBlank '>' = false from rfl]

lemma takes_operator (h : (c, one, two) ∈ operatorPairs) (hc : isBlank c = false) (cs : List Char) :
    ∃ w after t, cs = w ++ after ∧ step c cs = .ok (some t, after) ∧ Takes c w after t := by
  obtain ⟨hpair, hone⟩ := step_of_operatorPairs h
  by_cases hcs : ∀ d ∈ cs.head?, (d == '=') = false
  · refine ⟨[], cs, .operator one, rfl, hone cs hcs, fun after' haft => ?_, fun _ => ?_,
      Token.noConfusion⟩
    · exact hone after' (haft.stops rfl hcs)
    · simpa using hc
  · obtain ⟨rest, rfl⟩ : ∃ rest, cs = '=' :: rest := by
      cases cs with
      | nil => simp at hcs
      | cons d rest => exact ⟨rest, by simpa using hcs⟩
    refine ⟨['='], rest, .operator two, rfl, hpair rest, fun after' _ => hpair after', fun _ => ?_,
      Token.noConfusion⟩
    simp only [getLast?_cons_cons, getLast?_singleton, Option.mem_some_iff, forall_eq']
    rfl

lemma startsNumber_iff (c : Char) (cs : List Char) :
    startsNumber (c :: cs) = true ↔
      (c = '-' ∧ ∃ d more, cs = d :: more ∧ isDigit d = true) ∨ (c ≠ '-' ∧ isDigit c = true) := by
  by_cases hc : c = '-'
  · subst hc
    cases cs with
    | nil => simp [startsNumber, show isDigit '-' = false from rfl]
    | cons d more => simp [startsNumber]
  · rw [startsNumber.eq_2 c cs (by simp [hc])]
    simp [hc]

lemma splitNumber_of_startsNumber (h : startsNumber (c :: cs) = true) :
    splitNumber (c :: cs) = (c :: cs.takeWhile isNumberPart, cs.dropWhile isNumberPart) := by
  rcases (startsNumber_iff c cs).mp h with ⟨rfl, -⟩ | ⟨hc, hdig⟩
  · rfl
  · have hpart : isNumberPart c = true := by simp [isNumberPart, hdig]
    rw [splitNumber, takeWhile_cons_of_pos hpart, dropWhile_cons_of_pos hpart]
    rintro rest heq
    exact hc (cons.inj heq).1

lemma isBlank_of_isOrdinary (h : isOrdinary c = true) : isBlank c = false := by
  simp only [isOrdinary, Bool.and_eq_true, Bool.not_eq_true'] at h
  exact h.1

lemma numberToken_ne_eof {numeral : List Char} (h : numberToken numeral = .ok t) : t ≠ .eof := by
  rintro rfl
  unfold numberToken at h
  dsimp only at h
  split at h
  · cases hx : (Value.text (String.ofList numeral)).toFloat <;> simp [hx, Except.map] at h
  · cases hn : (Value.text (String.ofList numeral)).toInt <;> simp [hn, Except.map] at h

lemma wordToken_ne_eof (word : String) : wordToken word ≠ .eof := by
  unfold wordToken
  dsimp only
  split_ifs <;> exact Token.noConfusion

lemma takes_number (hc : isOrdinary c = true) (hnum : startsNumber (c :: cs) = true)
    (ht : numberToken (splitNumber (c :: cs)).1 = .ok t) :
    Takes c (cs.takeWhile isNumberPart) (cs.dropWhile isNumberPart) t := by
  rw [splitNumber_of_startsNumber hnum] at ht
  refine ⟨fun after' h => ?_, fun _ => ?_, numberToken_ne_eof ht⟩
  · obtain ⟨htake, hdrop⟩ := takeWhile_spec rfl h
    have hnum' : startsNumber (c :: (cs.takeWhile isNumberPart ++ after')) = true := by
      rw [startsNumber_iff] at hnum ⊢
      refine hnum.imp_left ?_
      rintro ⟨hmin, d, more, hcs, hd⟩
      have hpart : isNumberPart d = true := by simp [isNumberPart, hd]
      exact ⟨hmin, d, more.takeWhile isNumberPart ++ after', by simp [hcs, hpart], hd⟩
    rw [step_of_isOrdinary hc, if_pos hnum', splitNumber_of_startsNumber hnum', htake, hdrop,
      ht]
    rfl
  · refine forall_getLast?_cons (fun d hd => ?_) fun _ => ?_
    · exact isBlank_of_isNumberPart (mem_takeWhile_imp (mem_of_mem_getLast? hd))
    · exact isBlank_of_isOrdinary hc

lemma takes_word (hc : isOrdinary c = true) (hnum : startsNumber (c :: cs) = false)
    (hlet : (isLetter c || c == '_') = true) :
    ∃ w, cs = w ++ (wordBody false (c :: cs)).2 ∧ Takes c w (wordBody false (c :: cs)).2
      (wordToken (String.ofList (wordBody false (c :: cs)).1)) := by
  have hpart : isWordPart c = true := by
    simp only [isLetter, isWordPart, isWordChar, Char.isAlphanum, Bool.or_eq_true, Bool.and_eq_true]
      at hlet ⊢
    tauto
  have hmin : c ≠ '-' := by
    rintro rfl
    exact absurd hlet (by decide)
  have hdig : isDigit c = false := by
    rw [← Bool.not_eq_true, startsNumber_iff] at hnum
    simpa [hmin] using hnum
  have hbody : wordBody false (c :: cs) =
      (c :: (wordBody (c == '[') cs).1, (wordBody (c == '[') cs).2) := by
    rw [wordBody, if_pos hpart]
  obtain ⟨hcs, hsame, hlast⟩ := wordBody_spec false (c :: cs)
  rw [hbody] at hcs hsame hlast ⊢
  refine ⟨(wordBody (c == '[') cs).1, (cons.inj hcs).2, fun after' h => ?_, fun hne d hd => ?_,
    wordToken_ne_eof _⟩
  · have hnum' : startsNumber (c :: ((wordBody (c == '[') cs).1 ++ after')) = false := by
      rw [← Bool.not_eq_true, startsNumber_iff]
      simp [hmin, hdig]
    rw [step_of_isOrdinary hc, hnum', hlet, ← cons_append, hsame after' h]
    rfl
  · exact isBlank_of_isWordPart ((hlast hne).2 d hd)

lemma step_of_isBlank (h : isBlank c = true) (cs : List Char) : step c cs = .ok (none, cs) := by
  rw [step, if_pos h]

lemma isOrdinary_or (c : Char) :
    isOrdinary c = true ∨ isBlank c = true ∨ c ∈ ['(', ')', ',', '\'', '!', '=', '<', '>'] := by
  by_cases hmark : c ∈ ['(', ')', ',', '\'', '!', '=', '<', '>']
  · exact .inr (.inr hmark)
  · cases hbla : isBlank c with
    | true => exact .inr (.inl rfl)
    | false => exact .inl (by simpa [isOrdinary, hbla] using hmark)

theorem step_spec {token : Option Token} (h : step c cs = .ok (token, after)) :
    (token = none ∧ after = cs ∧ (isBlank c = true ∨ opensNothing c = true)) ∨
      ∃ t w, token = some t ∧ cs = w ++ after ∧ Takes c w after t := by
  have hmark : ∀ {t : Token}, (∀ rest, step c rest = .ok (some t, rest)) → isBlank c = false →
      t ≠ .eof → ∃ t w, token = some t ∧ cs = w ++ after ∧ Takes c w after t := by
    intro t hstep hc ht
    cases (hstep cs).symm.trans h
    exact ⟨t, [], rfl, rfl, takes_mark hstep hc ht cs⟩
  have hope : ∀ one two : Comparison, (c, one, two) ∈ operatorPairs → isBlank c = false →
      ∃ t w, token = some t ∧ cs = w ++ after ∧ Takes c w after t := by
    intro one two hpair hc
    obtain ⟨w, after', t, hcs, hstep, htak⟩ := takes_operator hpair hc cs
    cases hstep.symm.trans h
    exact ⟨t, w, rfl, hcs, htak⟩
  rcases isOrdinary_or c with hc | hbla | hc
  · rw [step_of_isOrdinary hc] at h
    split at h
    · next hnum =>
        cases ht : numberToken (splitNumber (c :: cs)).1 with
        | error e => simp [ht, Except.map] at h
        | ok t =>
          rw [ht, splitNumber_of_startsNumber hnum] at h
          cases h
          exact .inr ⟨t, _, rfl, takeWhile_append_dropWhile.symm, takes_number hc hnum ht⟩
    · next hnum =>
        split at h
        · next hlet =>
            cases h
            obtain ⟨w, hcs, htak⟩ := takes_word hc (by simpa using hnum) hlet
            exact .inr ⟨_, w, rfl, hcs, htak⟩
        · next hlet =>
            cases h
            have hdig : isDigit c = false := by
              by_contra hdig
              have hmin : c ≠ '-' := by
                rintro rfl
                exact hdig rfl
              exact hnum ((startsNumber_iff c cs).mpr (.inr ⟨hmin, by simpa using hdig⟩))
            exact .inl ⟨rfl, rfl, .inr (by simpa [opensNothing, hc, hdig] using hlet)⟩
  · cases (step_of_isBlank hbla cs).symm.trans h
    exact .inl ⟨rfl, rfl, .inl hbla⟩
  · simp only [mem_cons, not_mem_nil, or_false] at hc
    rcases hc with rfl | rfl | rfl | rfl | rfl | rfl | rfl | rfl
    · exact .inr (hmark (fun _ => rfl) rfl Token.noConfusion)
    · exact .inr (hmark (fun _ => rfl) rfl Token.noConfusion)
    · exact .inr (hmark (fun _ => rfl) rfl Token.noConfusion)
    · cases h
      obtain ⟨w, hcs, htak⟩ := takes_text cs
      exact .inr ⟨_, w, rfl, hcs, htak⟩
    · exact .inr (hope .bang .ne (by decide) rfl)
    · exact .inr (hmark (fun _ => rfl) rfl Token.noConfusion)
    · exact .inr (hope .lt .le (by decide) rfl)
    · exact .inr (hope .gt .ge (by decide) rfl)

lemma takes_of_step (h : step c (w ++ after) = .ok (some t, after)) :
    Takes c w after t := by
  rcases step_spec h with ⟨ht, -⟩ | ⟨t', w', ht, hw, htak⟩
  · cases ht
  · cases ht
    cases append_cancel_right hw
    exact htak

end CloudSpend.Filter
