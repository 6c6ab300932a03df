import CloudSpend.Proofs.Filter.LexerStep
import Mathlib.Data.List.DropRight

/-! # The parts of a filter's text -/

namespace CloudSpend.Filter

open List
open CloudSpend.Text

structure Lexeme where
  chars : List Char
  token : Option Token

inductive Lexes : List Char → List Lexeme → Prop where
  | nil : Lexes [] []
  | skip {c : Char} {cs : List Char} {ls : List Lexeme} (h : step c cs = .ok (none, cs))
      (more : Lexes cs ls) : Lexes (c :: cs) (⟨[c], none⟩ :: ls)
  | take {c : Char} {w after : List Char} {t : Token} {ls : List Lexeme}
      (h : step c (w ++ after) = .ok (some t, after)) (more : Lexes after ls) :
      Lexes (c :: (w ++ after)) (⟨c :: w, some t⟩ :: ls)

def tokensOf (ls : List Lexeme) : List Token := ls.filterMap Lexeme.token

def charsOf (ls : List Lexeme) : List Char := ls.flatMap Lexeme.chars

lemma tokensFrom_of_step {c : Char} {cs : List Char} {t : Token} {ts : List Token} {after : List Char} {fuel : Nat} (hstep : step c cs = .ok (some t, after))
    (hmore : tokensFrom fuel after = .ok ts) : tokensFrom (fuel + 1) (c :: cs) = .ok (t :: ts) := by
  rw [tokensFrom, hstep]
  simp only [bind, Except.bind, hmore]
  rfl

namespace Lexes

variable {cs : List Char} {ls : List Lexeme}

lemma charsOf_eq (h : Lexes cs ls) : charsOf ls = cs := by
  induction h with
  | nil => rfl
  | skip _ _ ih => simpa [charsOf] using ih
  | take _ _ ih => simpa [charsOf] using ih

lemma chars_of_token_eq_none (h : Lexes cs ls) :
    ∀ l ∈ ls, l.token = none →
      ∃ c, l.chars = [c] ∧ (isBlank c = true ∨ opensNothing c = true) := by
  induction h with
  | nil => simp
  | @skip c cs ls hstep _ ih =>
    simp only [mem_cons, forall_eq_or_imp]
    refine ⟨fun _ => ⟨c, rfl, ?_⟩, ih⟩
    rcases step_spec hstep with ⟨-, -, hc⟩ | ⟨t, w, ht, -⟩
    · exact hc
    · cases ht
  | take _ _ ih => simpa using ih

lemma eof_notMem (h : Lexes cs ls) : .eof ∉ tokensOf ls := by
  induction h with
  | nil => simp [tokensOf]
  | skip _ _ ih => simpa [tokensOf] using ih
  | take hstep _ ih => simpa [tokensOf, (takes_of_step hstep).ne_eof.symm] using ih

lemma tokensFrom_eq (h : Lexes cs ls) :
    ∀ fuel, cs.length ≤ fuel → tokensFrom fuel cs = .ok (tokensOf ls) := by
  induction h with
  | nil => intro fuel _; simp [tokensFrom, tokensOf]
  | @skip c cs ls hstep _ ih =>
    intro fuel hfuel
    obtain ⟨fuel, rfl⟩ : ∃ k, fuel = k + 1 := ⟨fuel - 1, by simp at hfuel; omega⟩
    rw [tokensFrom, hstep]
    simp only [bind, Except.bind, ih fuel (by simpa using hfuel)]
    rfl
  | @take c w after t ls hstep _ ih =>
    intro fuel hfuel
    obtain ⟨fuel, rfl⟩ : ∃ k, fuel = k + 1 := ⟨fuel - 1, by simp at hfuel; omega⟩
    exact tokensFrom_of_step hstep (ih fuel (by simp at hfuel; omega))

end Lexes

variable {ts : List Token} {s : String} {ls : List Lexeme}

lemma exists_lexes {fuel : Nat} {cs : List Char} (h : tokensFrom fuel cs = .ok ts)
    (hfuel : cs.length ≤ fuel) : ∃ ls, Lexes cs ls ∧ tokensOf ls = ts := by
  induction fuel generalizing cs ts with
  | zero =>
    obtain rfl : cs = [] := by simpa using hfuel
    cases h
    exact ⟨[], .nil, rfl⟩
  | succ fuel ih =>
    cases cs with
    | nil =>
      cases h
      exact ⟨[], .nil, rfl⟩
    | cons c cs =>
      cases hstep : step c cs with
      | error e => simp [tokensFrom, hstep, bind, Except.bind] at h
      | ok r =>
        obtain ⟨token, after⟩ := r
        cases hmore : tokensFrom fuel after with
        | error e => simp [tokensFrom, hstep, hmore, bind, Except.bind] at h
        | ok more =>
          simp only [tokensFrom, hstep, hmore, bind, Except.bind, pure, Except.pure,
            Except.ok.injEq] at h
          simp only [length_cons, Nat.add_le_add_iff_right] at hfuel
          rcases step_spec hstep with ⟨rfl, rfl, -⟩ | ⟨t, w, rfl, rfl, -⟩
          · obtain ⟨ls, hls, hts⟩ := ih hmore hfuel
            exact ⟨⟨[c], none⟩ :: ls, .skip hstep hls, hts.trans h⟩
          · obtain ⟨ls, hls, hts⟩ := ih hmore (by simp at hfuel; omega)
            refine ⟨⟨c :: w, some t⟩ :: ls, .take hstep hls, ?_⟩
            rw [← h, ← hts]
            rfl

lemma tokens_eq_ok_iff : tokens s = .ok ts ↔ ∃ ls, Lexes s.toList ls ∧ tokensOf ls = ts := by
  constructor
  · intro h
    exact exists_lexes h (Nat.le_of_eq String.length_toList)
  · rintro ⟨ls, hls, rfl⟩
    exact hls.tokensFrom_eq _ (Nat.le_of_eq String.length_toList)

def Lexeme.spaced (l : Lexeme) : Lexeme :=
  match l.token with
  | some _ => l
  | none => ⟨l.chars.map fun c => if isBlank c then c else ' ', none⟩

@[simp] lemma Lexeme.token_spaced (l : Lexeme) : l.spaced.token = l.token := by
  obtain ⟨chars, token⟩ := l
  cases token <;> rfl

@[simp] lemma tokensOf_map_spaced (ls : List Lexeme) :
    tokensOf (ls.map Lexeme.spaced) = tokensOf ls := by
  simp [tokensOf, filterMap_map]

lemma isBlank_ite (c : Char) : isBlank (if isBlank c then c else ' ') = true := by
  split
  · assumption
  · rfl

namespace Lexes

variable {cs : List Char} {ls : List Lexeme}

lemma replaces_spaced (h : Lexes cs ls) : Replaces cs (charsOf (ls.map Lexeme.spaced)) := by
  cases h with
  | nil => exact ⟨fun _ => rfl, by simp [charsOf]⟩
  | @skip c cs ls hstep _ =>
    refine ⟨fun h => (cons_ne_nil _ _ h).elim, fun d hd => ?_⟩
    obtain rfl : (if isBlank c then c else ' ') = d := by simpa [charsOf, Lexeme.spaced] using hd
    split
    · exact .inr (by simp)
    · exact .inl rfl
  | take =>
    refine ⟨fun h => (cons_ne_nil _ _ h).elim, fun d hd => .inr ?_⟩
    simpa [charsOf, Lexeme.spaced] using hd

theorem spaced (h : Lexes cs ls) :
    Lexes (charsOf (ls.map Lexeme.spaced)) (ls.map Lexeme.spaced) := by
  induction h with
  | nil => exact .nil
  | skip _ _ ih => exact .skip (step_of_isBlank (isBlank_ite _) _) ih
  | take hstep more ih => exact .take ((takes_of_step hstep).step_eq _ more.replaces_spaced) ih

end Lexes

lemma isBlank_getLast?_trimEnd (cs : List Char) :
    ∀ d ∈ (trimEnd cs).getLast?, isBlank d = false := by
  intro d hd
  have hhead := head?_dropWhile_not isBlank cs.reverse
  rw [trimEnd, getLast?_reverse] at hd
  rw [hd] at hhead
  simpa using hhead

lemma trimEnd_append {u : List Char} (hlast : ∀ d ∈ u.getLast?, isBlank d = false) (v : List Char) :
    trimEnd (u ++ v) = u ++ trimEnd v := by
  have hu : u.reverse.dropWhile isBlank = u.reverse := dropWhile_of_head (by simpa using hlast)
  rw [trimEnd, reverse_append, dropWhile_append, hu, trimEnd]
  split
  · next hemp => simp [isEmpty_iff.mp hemp]
  · simp

lemma trimEnd_cons_of_isBlank {c : Char} (h : isBlank c = true) (cs : List Char) :
    trimEnd (c :: cs) = if trimEnd cs = [] then [] else c :: trimEnd cs := by
  rw [trimEnd, reverse_cons, dropWhile_append, trimEnd]
  split
  · next hemp => simp [isEmpty_iff.mp hemp, h]
  · next hemp => simp_all

lemma replaces_trimEnd (cs : List Char) : Replaces cs (trimEnd cs) := by
  obtain ⟨bs, hbs⟩ := rdropWhile_prefix isBlank (l := cs)
  change trimEnd cs ++ bs = cs at hbs
  refine ⟨?_, fun d hd => .inr ?_⟩
  · rintro rfl
    rfl
  · rw [← hbs, head?_append, Option.mem_def.mp hd]
    rfl

structure Clean (ls : List Lexeme) : Prop where
  blank : ∀ l ∈ ls, l.token = none → ∀ c ∈ l.chars, isBlank c = true
  last : ∀ l ∈ ls, l.token ≠ none → ∀ d ∈ l.chars.getLast?, isBlank d = false

lemma Clean.tail {l : Lexeme} (h : Clean (l :: ls)) : Clean ls :=
  ⟨fun l' hl' => h.blank l' (mem_cons_of_mem _ hl'),
    fun l' hl' => h.last l' (mem_cons_of_mem _ hl')⟩

namespace Lexes

variable {cs : List Char} {ls : List Lexeme}

lemma last_of_token (h : Lexes cs ls) (hcs : ∀ d ∈ cs.getLast?, isBlank d = false) :
    ∀ l ∈ ls, l.token ≠ none → ∀ d ∈ l.chars.getLast?, isBlank d = false := by
  induction h with
  | nil => simp
  | @skip c cs ls _ _ ih =>
    grind
  | @take c w after t ls hstep _ ih =>
    have hmore : ∀ d ∈ after.getLast?, isBlank d = false := by
      grind
    simp only [mem_cons, forall_eq_or_imp]
    refine ⟨fun _ => ?_, ih hmore⟩
    by_cases haft : after = []
    · simpa [haft] using hcs
    · exact (takes_of_step hstep).last haft

lemma clean_spaced (h : Lexes cs ls) (hcs : ∀ d ∈ cs.getLast?, isBlank d = false) :
    Clean (ls.map Lexeme.spaced) where
  blank l hl htok c hc := by
    obtain ⟨l, -, rfl⟩ := mem_map.mp hl
    rw [Lexeme.token_spaced] at htok
    simp only [Lexeme.spaced, htok, mem_map] at hc
    obtain ⟨d, -, rfl⟩ := hc
    exact isBlank_ite d
  last l hl htok d hd := by
    obtain ⟨l, hmem, rfl⟩ := mem_map.mp hl
    rw [Lexeme.token_spaced] at htok
    obtain ⟨t, ht⟩ := Option.ne_none_iff_exists'.mp htok
    simp only [Lexeme.spaced, ht] at hd
    exact h.last_of_token hcs l hmem htok d hd

lemma trimStart (h : Lexes cs ls) :
    ∃ ls', Lexes (trimStart cs) ls' ∧ tokensOf ls' = tokensOf ls ∧ ls' ⊆ ls := by
  induction h with
  | nil => exact ⟨[], .nil, rfl, by simp⟩
  | @skip c cs ls hstep more ih =>
    cases hc : isBlank c with
    | true =>
      obtain ⟨ls', hls', htok, hsub⟩ := ih
      refine ⟨ls', by simpa [Text.trimStart, hc] using hls', htok, ?_⟩
      exact subset_cons_of_subset _ hsub
    | false => exact ⟨_, by simpa [Text.trimStart, hc] using Lexes.skip hstep more, rfl, by simp⟩
  | @take c w after t ls hstep more ih =>
    have hc : isBlank c = false := by
      by_contra hc
      cases (step_of_isBlank (by simpa using hc) (w ++ after)).symm.trans hstep
    exact ⟨_, by simpa [Text.trimStart, hc] using Lexes.take hstep more, rfl, by simp⟩

lemma trimEnd (h : Lexes cs ls) (hcle : Clean ls) :
    ∃ ls', Lexes (trimEnd cs) ls' ∧ tokensOf ls' = tokensOf ls := by
  induction h with
  | nil => exact ⟨[], .nil, rfl⟩
  | @skip c cs ls hstep more ih =>
    have hc : isBlank c = true := hcle.blank ⟨[c], none⟩ (by simp) rfl c (by simp)
    obtain ⟨ls', hls', htok⟩ := ih hcle.tail
    rw [trimEnd_cons_of_isBlank hc]
    split
    · next hemp =>
        rw [hemp] at hls'
        cases hls'
        exact ⟨[], .nil, htok⟩
    · exact ⟨_, .skip (step_of_isBlank hc _) hls', htok⟩
  | @take c w after t ls hstep more ih =>
    obtain ⟨ls', hls', htok⟩ := ih hcle.tail
    have hlast : ∀ d ∈ (c :: w).getLast?, isBlank d = false :=
      hcle.last ⟨c :: w, some t⟩ (by simp) (by simp)
    rw [← cons_append, trimEnd_append hlast]
    refine ⟨_, .take ((takes_of_step hstep).step_eq _ (replaces_trimEnd after)) hls', ?_⟩
    simpa [tokensOf] using htok

lemma trimmed (h : Lexes cs ls) (hcle : Clean ls) :
    tokens (trim (String.ofList cs)) = .ok (tokensOf ls) := by
  obtain ⟨ls1, h1, htok1, hsub⟩ := h.trimStart
  have hcle1 : Clean ls1 :=
    ⟨fun l hl => hcle.blank l (hsub hl), fun l hl => hcle.last l (hsub hl)⟩
  obtain ⟨ls2, h2, htok2⟩ := h1.trimEnd hcle1
  refine tokens_eq_ok_iff.mpr ⟨ls2, ?_, htok2.trans htok1⟩
  simpa [trim] using h2

end Lexes

lemma parse_of_tokens (h : tokens (trim s) = .ok ts) (hne : ts ≠ []) (limit : Nat) :
    parse s limit =
      ⟨s, (parseTokens (ts ++ [.eof]) limit).1, (parseTokens (ts ++ [.eof]) limit).2⟩ := by
  have hemp : (trim s).isEmpty = false := by
    rw [← Bool.not_eq_true, String.isEmpty_iff]
    intro hemp
    rw [hemp] at h
    cases h
    exact hne rfl
  simp [parse, hemp, tokenize, h, Except.map]

def spacedText (ls : List Lexeme) : String := String.ofList (charsOf (ls.map Lexeme.spaced))

lemma Lexes.parse_spacedText (h : Lexes (trim s).toList ls) (hne : tokensOf ls ≠ []) :
    parse (spacedText ls) = ⟨spacedText ls, (parse s).expression, (parse s).problems⟩ := by
  have hlast : ∀ d ∈ (trim s).toList.getLast?, isBlank d = false := by
    rw [trim, String.toList_ofList]
    exact isBlank_getLast?_trimEnd _
  have hspa : tokens (trim (spacedText ls)) = .ok (tokensOf ls) := by
    rw [← tokensOf_map_spaced ls]
    exact h.spaced.trimmed (h.clean_spaced hlast)
  have htok : tokens (trim s) = .ok (tokensOf ls) := tokens_eq_ok_iff.mpr ⟨ls, h, rfl⟩
  rw [parse_of_tokens hspa hne, parse_of_tokens htok hne]

end CloudSpend.Filter
