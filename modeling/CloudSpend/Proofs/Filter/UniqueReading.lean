import CloudSpend.Proofs.Filter.Placeholders

/-! # Conditions have one reading -/

namespace CloudSpend.Filter

open List

def backward (s : String) : List Char := s.toList.reverse

@[simp] lemma backward_append (s t : String) : backward (s ++ t) = backward t ++ backward s := by
  simp [backward]

variable {s op : String} {p q : List Char}

lemma backward_inj {t : String} (h : backward s = backward t) : s = t :=
  String.toList_inj.mp (reverse_inj.mp h)

theorem append_inj_of_run {kind : Char → Prop} {cs ds : List Char} (hcs : ∀ c ∈ cs, kind c)
    (hds : ∀ c ∈ ds, kind c) (hp : ∀ c ∈ p.head?, ¬ kind c) (hq : ∀ c ∈ q.head?, ¬ kind c)
    (h : cs ++ p = ds ++ q) : cs = ds ∧ p = q := by
  have hnil : ∀ {r a : List Char}, (∀ c ∈ (a ++ r).head?, ¬ kind c) → (∀ c ∈ a, kind c) → a = [] := by
    intro r a hhead hkind
    cases a with
    | nil => rfl
    | cons c a => exact absurd (hkind c (by simp)) (hhead c rfl)
  rcases append_eq_append_iff.mp h with ⟨a, rfl, rfl⟩ | ⟨a, rfl, rfl⟩
  · have ha : a = [] := hnil hp fun c hc => hds c (by simp [hc])
    simp [ha]
  · have ha : a = [] := hnil hq fun c hc => hcs c (by simp [hc])
    simp [ha]

def IsEnd (c : Char) : Prop := c.isDigit = true ∨ c = ')'

lemma not_isEnd : ∀ c ∈ " (ANDOR".toList, ¬ IsEnd c := by
  simp [IsEnd]

inductive Opens : List Char → Prop
  | nil : Opens []
  | parenthesis (p : List Char) : Opens ('(' :: p)
  | connective (op : Connective) {c : Char} (hc : IsEnd c) (p : List Char) :
      Opens (' ' :: (backward op.text ++ ' ' :: c :: p))

lemma Opens.head? (h : Opens p) : ∀ c ∈ p.head?, c = '(' ∨ c = ' ' := by
  cases h with
  | nil => simp
  | parenthesis p => simp
  | connective op hc p => simp

lemma Opens.exists_connective (h : Opens p) (hp : p = ' ' :: q) :
    ∃ (op : Connective) (c : Char) (r : List Char), IsEnd c ∧ q = backward op.text ++ ' ' :: c :: r := by
  cases h with
  | nil => cases hp
  | parenthesis p => simp at hp
  | connective op hc r =>
    rw [cons.injEq] at hp
    exact ⟨op, _, r, hc, hp.2.symm⟩

def IsMarked (slot : Nat → String) : Prop :=
  ∃ mark, IsNumbered mark slot ∧ mark ≠ [] ∧ ∀ c ∈ mark, c.isDigit = false

lemma isMarked_records : IsMarked Dialect.records.slot :=
  ⟨_, isNumbered_records, by decide, by simp⟩

lemma isMarked_stored (table : String) : IsMarked (Dialect.stored table).slot :=
  ⟨_, isNumbered_stored table, by decide, by simp⟩

section Slots

variable {slot : Nat → String} (hslot : IsMarked slot)
include hslot

variable {p q : List Char} {ms ns : List Nat}

lemma IsMarked.inj {m n : Nat} (h : backward (slot m) ++ p = backward (slot n) ++ q) : m = n ∧ p = q := by
  obtain ⟨mark, ⟨base, hbase⟩, hne, hmark⟩ := hslot
  have hdig : ∀ i, ∀ c ∈ (Nat.toDigits 10 i).reverse, c.isDigit = true := fun i c hc =>
    Numeral.isDigit_of_mem_decimal (mem_reverse.mp hc)
  have hhead : ∀ r : List Char, ∀ c ∈ (mark.reverse ++ r).head?, ¬ c.isDigit = true := by
    intro r c hc
    rw [head?_append_of_ne_nil _ (by simpa using hne), head?_reverse] at hc
    simp [hmark c (mem_of_getLast? hc)]
  simp only [backward, hbase, reverse_append, append_assoc] at h
  obtain ⟨hnum, hrest⟩ := append_inj_of_run (hdig _) (hdig _) (hhead p) (hhead q) h
  have hval := congrArg (fun ds => Nat.ofDigitChars 10 ds.reverse 0) hnum
  simp only [reverse_reverse, Nat.ofDigitChars_ten_toDigits] at hval
  exact ⟨Nat.add_right_cancel hval, append_cancel_left hrest⟩

lemma IsMarked.exists_digit (n : Nat) : ∃ c cs, c.isDigit = true ∧ backward (slot n) = c :: cs := by
  obtain ⟨mark, ⟨base, hbase⟩, -, -⟩ := hslot
  obtain ⟨c, cs, hcs⟩ := exists_cons_of_ne_nil
    (reverse_ne_nil_iff.mpr (Nat.toDigits_ne_nil (n := n + base) (b := 10)))
  have hc : c ∈ Nat.toDigits 10 (n + base) := by
    rw [← mem_reverse, hcs]
    exact mem_cons_self
  refine ⟨c, cs ++ mark.reverse, Numeral.isDigit_of_mem_decimal hc, ?_⟩
  rw [backward, hbase, reverse_append, hcs, cons_append]

lemma IsMarked.ne_closing (n : Nat) (p q : List Char) : backward (slot n) ++ p ≠ ')' :: q := by
  intro h
  obtain ⟨c, cs, hc, hcs⟩ := hslot.exists_digit n
  rw [hcs, cons_append] at h
  obtain ⟨rfl, -⟩ := cons.inj h
  exact absurd hc (by decide)

def slotTail (slot : Nat → String) (ns : List Nat) : List Char :=
  ns.flatMap fun n => ' ' :: ',' :: backward (slot n)

omit hslot in
lemma backward_intercalate (ns : List Nat) (n : Nat) :
    backward (", ".intercalate ((ns ++ [n]).map slot)) = backward (slot n) ++ slotTail slot ns.reverse := by
  induction ns with
  | nil => simp [slotTail]
  | cons m ns ih =>
    have htext : ", ".intercalate ((m :: ns ++ [n]).map slot) =
        slot m ++ ", " ++ ", ".intercalate ((ns ++ [n]).map slot) := by
      cases ns <;> simp [String.append_assoc]
    rw [htext, backward_append, backward_append, ih, slotTail, slotTail, reverse_cons,
      flatMap_append, append_assoc]
    simp [backward]

lemma IsMarked.slotTail_inj (h : slotTail slot ms ++ '(' :: p = slotTail slot ns ++ '(' :: q) :
    ms = ns ∧ p = q := by
  induction ms generalizing ns with
  | nil =>
    cases ns with
    | nil => simpa [slotTail] using h
    | cons n ns => simp [slotTail] at h
  | cons m ms ih =>
    cases ns with
    | nil => simp [slotTail] at h
    | cons n ns =>
      simp only [slotTail, flatMap_cons, cons_append, append_assoc,
        List.cons.injEq, true_and] at h
      obtain ⟨rfl, hrest⟩ := hslot.inj h
      obtain ⟨rfl, rfl⟩ := ih hrest
      exact ⟨rfl, rfl⟩

lemma IsMarked.slots_inj
    (h : backward (", ".intercalate (ms.map slot)) ++ '(' :: p = backward (", ".intercalate (ns.map slot)) ++ '(' :: q) :
    ms = ns ∧ p = q := by
  have hends : ∀ (n : Nat) (cs r t : List Char), '(' :: r ≠ backward (slot n) ++ cs ++ t := by
    intro n cs r t hr
    obtain ⟨c, ds, hc, hds⟩ := hslot.exists_digit n
    rw [hds, cons_append, cons_append, cons.injEq] at hr
    rw [← hr.1] at hc
    exact absurd hc (by decide)
  rcases eq_nil_or_concat' ms with rfl | ⟨ms, m, rfl⟩ <;>
    rcases eq_nil_or_concat' ns with rfl | ⟨ns, n, rfl⟩
  · simpa [backward] using h
  · rw [backward_intercalate] at h
    exact absurd h (hends _ _ _ _)
  · rw [backward_intercalate] at h
    exact absurd h.symm (hends _ _ _ _)
  · rw [backward_intercalate, backward_intercalate, append_assoc, append_assoc] at h
    obtain ⟨rfl, hrest⟩ := hslot.inj h
    obtain ⟨hrev, rfl⟩ := hslot.slotTail_inj hrest
    rw [reverse_inj.mp hrev]
    exact ⟨rfl, rfl⟩

end Slots

def IsOperator (op : String) : Prop :=
  ∃ negation word : List Char, op.toList = negation ++ word ∧
    (negation = [] ∨ negation = "NOT ".toList) ∧ word ≠ [] ∧ ∀ c ∈ word, c ≠ ' ' ∧ c ≠ ','

lemma isOperator_operator (t : Test) : IsOperator t.operator := by
  cases t with
  | compare op v => exact ⟨[], op.text.toList, rfl, .inl rfl, by cases op <;> simp [Comparison.text]⟩
  | like negated v =>
    cases negated
    · exact ⟨[], "LIKE".toList, rfl, .inl rfl, by simp⟩
    · exact ⟨"NOT ".toList, "LIKE".toList, by simp [Test.operator], .inr rfl, by simp⟩
  | member negated vs =>
    cases negated
    · exact ⟨[], "IN".toList, rfl, .inl rfl, by simp⟩
    · exact ⟨"NOT ".toList, "IN".toList, by simp [Test.operator], .inr rfl, by simp⟩

theorem IsOperator.inj {op' : String} (h : IsOperator op) (h' : IsOperator op') (hp : p ≠ "TON ".toList ++ q)
    (hq : q ≠ "TON ".toList ++ p) (heq : backward op ++ ' ' :: p = backward op' ++ ' ' :: q) :
    op = op' ∧ p = q := by
  obtain ⟨negation, word, hop, hneg, -, hword⟩ := h
  obtain ⟨negation', word', hop', hneg', -, hword'⟩ := h'
  have hbla : ∀ {negation r : List Char}, (negation = [] ∨ negation = "NOT ".toList) →
      ∀ c ∈ (negation.reverse ++ ' ' :: r).head?, ¬ c ≠ ' ' := by
    rintro _ r (rfl | rfl) <;> simp
  have hkind : ∀ {word : List Char}, (∀ c ∈ word, c ≠ ' ' ∧ c ≠ ',') → ∀ c ∈ word.reverse, c ≠ ' ' :=
    fun hword c hc => (hword c (mem_reverse.mp hc)).1
  simp only [backward, hop, hop', reverse_append, append_assoc] at heq
  obtain ⟨hwor, hrest⟩ :=
    append_inj_of_run (hkind hword) (hkind hword') (hbla hneg) (hbla hneg') heq
  rw [← String.toList_inj, hop, hop', reverse_inj.mp hwor]
  rcases hneg with rfl | rfl <;> rcases hneg' with rfl | rfl
  all_goals grind

lemma IsOperator.exists_end (h : IsOperator op) : ∃ c cs, c ≠ ',' ∧ backward op = c :: cs := by
  obtain ⟨negation, word, hop, -, hne, hword⟩ := h
  obtain ⟨c, cs, hcs⟩ := exists_cons_of_ne_nil (reverse_ne_nil_iff.mpr hne)
  have hc : c ∈ word := by
    rw [← mem_reverse, hcs]
    exact mem_cons_self
  refine ⟨c, cs ++ negation.reverse, (hword c hc).2, ?_⟩
  rw [backward, hop, reverse_append, hcs, cons_append]

lemma connective_inj {op op' : Connective}
    (h : backward op.text ++ ' ' :: p = backward op'.text ++ ' ' :: q) : op = op' ∧ p = q := by
  cases op <;> cases op' <;> simp [backward, Connective.text] at h ⊢ <;> exact h

structure Separable (IsColumn : String → Prop) : Prop where
  inj : ∀ {c d : String} {p q : List Char}, IsColumn c → IsColumn d → Opens p → Opens q →
    backward c ++ p = backward d ++ q → c = d ∧ p = q
  ne_not : ∀ {c d : String} {p q : List Char}, IsColumn c → IsColumn d → Opens p → Opens q →
    backward c ++ p ≠ "TON ".toList ++ (backward d ++ q)

def IsName (s : String) : Prop := ∀ c ∈ s.toList, isNamePart c = true

lemma IsName.backward (h : IsName s) : ∀ c ∈ backward s, isNamePart c = true :=
  fun c hc => h c (mem_reverse.mp hc)

lemma Opens.not_isNamePart (h : Opens p) : ∀ c ∈ p.head?, ¬ isNamePart c = true := by
  intro c hc
  rcases h.head? c hc with rfl | rfl <;> decide

lemma separable_isName : Separable IsName where
  inj hc hd hp hq h := by
    obtain ⟨hname, hrest⟩ :=
      append_inj_of_run hc.backward hd.backward hp.not_isNamePart hq.not_isNamePart h
    exact ⟨backward_inj hname, hrest⟩
  ne_not {c d p q} hc hd hp hq h := by
    replace h : backward c ++ p = "TON".toList ++ ' ' :: (backward d ++ q) := h
    obtain ⟨-, rfl⟩ := append_inj_of_run hc.backward (all_eq_true.mp (by decide)) hp.not_isNamePart
      (by rintro _ ⟨⟩; decide) h
    obtain ⟨op, e, r, hend, hcon⟩ := hp.exists_connective rfl
    have hop : ∀ c ∈ backward op.text, isNamePart c = true := by
      cases op <;> exact all_eq_true.mp (by decide)
    obtain ⟨-, hope⟩ := append_inj_of_run hd.backward hop hq.not_isNamePart
      (by rintro _ ⟨⟩; decide) hcon
    obtain ⟨op', e', r', -, hword⟩ := hq.exists_connective hope
    have hlet : ¬ IsEnd e := by
      cases op'
      · obtain ⟨rfl, -⟩ := cons.inj hword
        exact not_isEnd _ (by decide)
      · obtain ⟨rfl, -⟩ := cons.inj hword
        exact not_isEnd _ (by decide)
    exact hlet hend

def IsColumnOf (table c : String) : Prop := ∃ name, IsName name ∧ c = table ++ "." ++ name

lemma separable_isColumnOf (table : String) : Separable (IsColumnOf table) where
  inj := by
    rintro _ _ p q ⟨name, hname, rfl⟩ ⟨name', hname', rfl⟩ - - h
    have hpoi : backward "." = ['.'] := rfl
    simp only [backward_append, append_assoc, hpoi] at h
    obtain ⟨hnam, hrest⟩ := append_inj_of_run hname.backward hname'.backward (by simp; decide)
      (by simp; decide) h
    rw [backward_inj hnam]
    exact ⟨rfl, by simpa using hrest⟩
  ne_not := by
    rintro _ _ p q ⟨name, hname, rfl⟩ ⟨name', hname', rfl⟩ - - h
    have hpoi : backward "." = ['.'] := rfl
    simp only [backward_append, append_assoc, hpoi] at h
    replace h : backward name ++ '.' :: (backward table ++ p) = "TON".toList ++ ' ' :: _ := h
    obtain ⟨-, hrest⟩ := append_inj_of_run hname.backward (all_eq_true.mp (by decide))
      (by simp; decide) (by simp; decide) h
    simp at hrest

namespace Fragment

def Over (IsColumn : String → Prop) : Fragment → Prop
  | .always => False
  | .compare column op _ => IsColumn column ∧ IsOperator op
  | .member column op _ => IsColumn column ∧ IsOperator op
  | .join _ l r => l.Over IsColumn ∧ r.Over IsColumn
  | .negate f => f.Over IsColumn

variable {slot : Nat → String}

lemma backward_compare (column op : String) (n : Nat) :
    backward ((compare column op n).text slot) =
      backward (slot n) ++ ' ' :: (backward op ++ ' ' :: backward column) := by
  simp [text, backward]

lemma backward_member (column op : String) (ns : List Nat) :
    backward ((member column op ns).text slot) =
      ')' :: (backward (", ".intercalate (ns.map slot)) ++
        '(' :: ' ' :: (backward op ++ ' ' :: backward column)) := by
  simp [text, backward]

lemma backward_join (op : Connective) (l r : Fragment) :
    backward ((join op l r).text slot) =
      ')' :: (backward (r.text slot) ++
        ' ' :: (backward op.text ++ ' ' :: (backward (l.text slot) ++ ['(']))) := by
  simp [text, backward]

lemma backward_negate (f : Fragment) :
    backward ((negate f).text slot) = ')' :: (backward (f.text slot) ++ '(' :: " TON".toList) := by
  simp [text, backward]

variable {IsColumn : String → Prop} (hslot : IsMarked slot)
include hslot

variable {f : Fragment} {p q : List Char}

lemma Over.exists_end (hf : f.Over IsColumn) : ∃ c cs, IsEnd c ∧ backward (f.text slot) = c :: cs := by
  cases f with
  | always => exact hf.elim
  | compare column op n =>
    obtain ⟨c, cs, hc, hcs⟩ := hslot.exists_digit n
    exact ⟨c, _, .inl hc, by rw [backward_compare, hcs, cons_append]⟩
  | member column op ns => exact ⟨')', _, .inr rfl, backward_member column op ns⟩
  | join op l r => exact ⟨')', _, .inr rfl, backward_join op l r⟩
  | negate f => exact ⟨')', _, .inr rfl, backward_negate f⟩

lemma Over.ne_slots (hf : f.Over IsColumn) (ns : List Nat) (p q : List Char) :
    backward (", ".intercalate (ns.map slot)) ++ '(' :: p ≠ backward (f.text slot) ++ q := by
  intro h
  rcases eq_nil_or_concat' ns with rfl | ⟨ns, n, rfl⟩
  · obtain ⟨c, cs, hc, hcs⟩ := hf.exists_end hslot
    rw [hcs, cons_append] at h
    obtain ⟨rfl, -⟩ := List.cons.inj h
    exact not_isEnd _ (by decide) hc
  · rw [backward_intercalate, append_assoc] at h
    cases f with
    | always => exact hf
    | compare column op m =>
      rw [backward_compare, append_assoc] at h
      obtain ⟨-, hrest⟩ := hslot.inj h
      obtain ⟨c, cs, hc, hcs⟩ := hf.2.exists_end
      rw [hcs] at hrest
      cases hns : ns.reverse with
      | nil => simp [hns, slotTail] at hrest
      | cons m ms =>
        simp only [hns, slotTail, flatMap_cons, cons_append, List.cons.injEq] at hrest
        exact hc hrest.2.1.symm
    | member column op ms =>
      rw [backward_member] at h
      exact hslot.ne_closing _ _ _ h
    | join op l r =>
      rw [backward_join] at h
      exact hslot.ne_closing _ _ _ h
    | negate f =>
      rw [backward_negate] at h
      exact hslot.ne_closing _ _ _ h

lemma Over.opens_connective (hf : f.Over IsColumn) (op : Connective) (p : List Char) :
    Opens (' ' :: (backward op.text ++ ' ' :: (backward (f.text slot) ++ p))) := by
  obtain ⟨c, cs, hc, hcs⟩ := hf.exists_end hslot
  rw [hcs]
  exact .connective op hc _

omit hslot in
lemma test_inj (hcol : Separable IsColumn) {c d op op' : String} (hc : IsColumn c ∧ IsOperator op)
    (hd : IsColumn d ∧ IsOperator op') (hp : Opens p) (hq : Opens q)
    (h : backward op ++ ' ' :: (backward c ++ p) = backward op' ++ ' ' :: (backward d ++ q)) :
    op = op' ∧ c = d ∧ p = q := by
  obtain ⟨hop, hrest⟩ := hc.2.inj hd.2 (hcol.ne_not hc.1 hd.1 hp hq)
    (hcol.ne_not hd.1 hc.1 hq hp) h
  exact ⟨hop, hcol.inj hc.1 hd.1 hp hq hrest⟩

lemma Over.text_inj (hcol : Separable IsColumn) {g : Fragment} (hf : f.Over IsColumn)
    (hg : g.Over IsColumn) (hp : Opens p) (hq : Opens q)
    (h : backward (f.text slot) ++ p = backward (g.text slot) ++ q) : f = g ∧ p = q := by
  induction f generalizing g p q <;> cases g <;> first
    | exact hf.elim
    | exact hg.elim
    | simp only [backward_compare, backward_member, backward_join, backward_negate, cons_append, append_assoc,
        nil_append, cons.injEq, true_and] at h
  case compare.compare c op m d op' n =>
    obtain ⟨rfl, hrest⟩ := hslot.inj h
    obtain ⟨rfl, rfl, rfl⟩ := test_inj hcol hf hg hp hq (cons.inj hrest).2
    exact ⟨rfl, rfl⟩
  case member.member c op ms d op' ns =>
    obtain ⟨rfl, hrest⟩ := hslot.slots_inj h
    obtain ⟨rfl, rfl, rfl⟩ := test_inj hcol hf hg hp hq (cons.inj hrest).2
    exact ⟨rfl, rfl⟩
  case join.join op l r ihl ihr op' l' r' =>
    obtain ⟨rfl, hrest⟩ := ihr hf.2 hg.2 (hf.1.opens_connective hslot op _) (hg.1.opens_connective hslot op' _) h
    obtain ⟨rfl, hrest'⟩ := connective_inj (cons.inj hrest).2
    obtain ⟨rfl, hope⟩ := ihl hf.1 hg.1 (.parenthesis _) (.parenthesis _) hrest'
    exact ⟨rfl, (cons.inj hope).2⟩
  case negate.negate f ih g =>
    obtain ⟨rfl, hrest⟩ := ih (g := g) hf hg (.parenthesis _) (.parenthesis _) h
    exact ⟨rfl, by simpa using hrest⟩
  case join.negate op l r ihl ihr g =>
    obtain ⟨-, hrest⟩ := ihr (g := g) hf.2 hg (hf.1.opens_connective hslot op _) (.parenthesis _) h
    simp at hrest
  case negate.join f ih op' l' r' =>
    obtain ⟨-, hrest⟩ := ih hf hg.2 (.parenthesis _) (hg.1.opens_connective hslot op' _) h
    simp at hrest
  case compare.member | compare.join | compare.negate => exact absurd h (hslot.ne_closing _ _ _)
  case member.compare | join.compare | negate.compare => exact absurd h.symm (hslot.ne_closing _ _ _)
  case member.join => exact absurd h (hg.2.ne_slots hslot _ _ _)
  case join.member => exact absurd h.symm (hf.2.ne_slots hslot _ _ _)
  case member.negate g => exact absurd h (Over.ne_slots hslot (f := g) hg _ _ _)
  case negate.member f _ _ _ _ => exact absurd h.symm (Over.ne_slots hslot (f := f) hf _ _ _)

end Fragment

namespace Expr

def mapFields (g : String → String) : Expr → Expr
  | .condition f t => .condition (g f) t
  | .logical op l r => .logical op (l.mapFields g) (r.mapFields g)
  | .negation e => .negation (e.mapFields g)

variable {IsColumn : String → Prop} {column : String → String} {e₁ e₂ : Expr} {d : Dialect} {bound : List Value}

lemma over_fragment (e : Expr) (first : Nat) (h : ∀ f ∈ e.fields, IsColumn (column f)) :
    (e.fragment column first).Over IsColumn := by
  induction e generalizing first with
  | condition f t =>
    have hcon := And.intro (h f (by simp [fields])) (isOperator_operator t)
    cases t <;> exact hcon
  | logical op l r ihl ihr =>
    exact ⟨ihl _ fun f hf => h f (by simp [fields, hf]), ihr _ fun f hf => h f (by simp [fields, hf])⟩
  | negation e ih => exact ih first h

lemma toValue_inj {v w : Literal} (h : v.toValue = w.toValue) : v = w := by
  cases v <;> cases w <;> simp_all [Literal.toValue]

lemma test_eq_of_operator {t u : Test} (hop : t.operator = u.operator) (h : t.literals = u.literals) :
    t = u := by
  cases t with
  | compare op v =>
    cases u with
    | compare op' v' =>
      obtain rfl : op = op' := by
        revert hop
        cases op <;> cases op' <;> simp [Test.operator, Comparison.text]
      simpa [Test.literals] using h
    | like negated v' => cases op <;> cases negated <;> simp [Test.operator, Comparison.text] at hop
    | member negated vs => cases op <;> cases negated <;> simp [Test.operator, Comparison.text] at hop
  | like negated v =>
    cases u with
    | compare op v' => cases op <;> cases negated <;> simp [Test.operator, Comparison.text] at hop
    | like negated' v' => cases negated <;> cases negated' <;> simp_all [Test.operator, Test.literals]
    | member negated' vs => cases negated <;> cases negated' <;> simp [Test.operator] at hop
  | member negated vs =>
    cases u with
    | compare op v' => cases op <;> cases negated <;> simp [Test.operator, Comparison.text] at hop
    | like negated' v' => cases negated <;> cases negated' <;> simp [Test.operator] at hop
    | member negated' vs' => cases negated <;> cases negated' <;> simp_all [Test.operator, Test.literals]

lemma fragment_condition (column : String → String) (f : String) (t : Test) (first : Nat) :
    (condition f t).fragment column first = .compare (column f) t.operator first ∨
      (condition f t).fragment column first =
        .member (column f) t.operator (range' first t.literals.length) := by
  cases t with
  | compare op v => exact .inl rfl
  | like negated v => exact .inl rfl
  | member negated vs => exact .inr rfl

lemma mapFields_eq_of_fragment {first : Nat} (h : e₁.fragment column first = e₂.fragment column first)
    (hlit : e₁.literals = e₂.literals) : e₁.mapFields column = e₂.mapFields column := by
  induction e₁ generalizing e₂ first with
  | condition f t =>
    cases e₂ with
    | condition g u =>
      have hpar : column f = column g ∧ t.operator = u.operator := by
        rcases fragment_condition column f t first with ht | ht <;>
          rcases fragment_condition column g u first with hu | hu <;> rw [ht, hu] at h
        all_goals grind
      rw [mapFields, mapFields, hpar.1, test_eq_of_operator hpar.2 hlit]
    | logical op l r => cases t <;> simp [fragment] at h
    | negation e => cases t <;> simp [fragment] at h
  | logical op l r ihl ihr =>
    cases e₂ with
    | condition g u => cases u <;> simp [fragment] at h
    | logical op' l' r' =>
      simp only [fragment, Fragment.join.injEq] at h
      obtain ⟨rfl, hl, hr⟩ := h
      have hlen : l.literals.length = l'.literals.length := by
        have hslo := congrArg (fun f => f.slots.length) hl
        simpa [slots_fragment] using hslo
      obtain ⟨hleft, hrig⟩ := append_inj hlit hlen
      rw [← hlen] at hr
      rw [mapFields, mapFields, ihl hl hleft, ihr hr hrig]
    | negation e => simp [fragment] at h
  | negation e ih =>
    cases e₂ with
    | condition g u => cases u <;> simp [fragment] at h
    | logical op l r => simp [fragment] at h
    | negation e' =>
      have he : e.fragment column first = e'.fragment column first := by
        simpa [fragment] using h
      exact congrArg Expr.negation (ih he hlit)

lemma fragment_eq_of_text (hslot : IsMarked d.slot) (hcol : Separable IsColumn)
    (h₁ : ∀ f ∈ e₁.fields, IsColumn (d.column f)) (h₂ : ∀ f ∈ e₂.fields, IsColumn (d.column f))
    (h : (e₁.sql d bound).1 = (e₂.sql d bound).1) :
    e₁.fragment d.column bound.length = e₂.fragment d.column bound.length := by
  rw [sql_eq, sql_eq] at h
  have hbac := congrArg (fun s => backward s ++ []) h
  exact ((e₁.over_fragment _ h₁).text_inj hslot hcol (e₂.over_fragment _ h₂) .nil .nil hbac).1

lemma eq_sql_of_compile {e : Expr} {r : String × List Value} (h : e.compile d bound = .ok r) :
    e.sql d bound = r := by
  unfold compile at h
  split at h
  · cases h
  · exact Except.ok.inj h

end Expr

lemma exists_separable {d : Dialect} (hd : d = .records ∨ ∃ table, d = .stored table) :
    IsMarked d.slot ∧ ∃ IsColumn, Separable IsColumn ∧ ∀ f, IsDotted f → IsColumn (d.column f) := by
  rcases hd with rfl | ⟨table, rfl⟩
  · refine ⟨isMarked_records, IsName, separable_isName, fun f hf => ?_⟩
    have hcol : Dialect.records.column f = recordColumn f := recordExpression_of_isDotted hf
    rw [hcol]
    exact fun c hc => isNamePart_of_mem_recordColumn hf hc
  · refine ⟨isMarked_stored table, IsColumnOf table, separable_isColumnOf table, fun f hf => ?_⟩
    exact ⟨lastPart f, fun c hc => isNamePart_of_mem_lastPart hf hc, storedColumn_eq table f⟩

/-- In both dialects the text of the condition of an expression of dotted fields determines the fragment: how its
conditions are joined and negated, their columns and operators, and which slots each of them has. -/
theorem compile_inj {d : Dialect} (hd : d = .records ∨ ∃ table, d = .stored table) {e₁ e₂ : Expr}
    (h₁ : ∀ f ∈ e₁.fields, IsDotted f) (h₂ : ∀ f ∈ e₂.fields, IsDotted f)
    (bound : List Value) {params params' : List Value} {sql : String} (hc₁ : e₁.compile d bound = .ok (sql, params))
    (hc₂ : e₂.compile d bound = .ok (sql, params')) :
    e₁.fragment d.column bound.length = e₂.fragment d.column bound.length ∧
      (params = params' → e₁.mapFields d.column = e₂.mapFields d.column) := by
  obtain ⟨hslot, IsColumn, hcol, hfie⟩ := exists_separable hd
  have hs₁ := Expr.eq_sql_of_compile hc₁
  have hs₂ := Expr.eq_sql_of_compile hc₂
  have hfra := Expr.fragment_eq_of_text hslot hcol (fun f hf => hfie f (h₁ f hf))
    (fun f hf => hfie f (h₂ f hf)) (by rw [hs₁, hs₂])
  refine ⟨hfra, fun hpar => Expr.mapFields_eq_of_fragment hfra ?_⟩
  rw [Expr.sql_eq, Prod.mk.injEq] at hs₁ hs₂
  have hval : bound ++ e₁.literals.map Literal.toValue = bound ++ e₂.literals.map Literal.toValue := by
    rw [hs₁.2, hs₂.2, hpar]
  exact map_injective_iff.mpr (fun _ _ h => Expr.toValue_inj h) (append_cancel_left hval)

/-- Two filters with one condition: their fields stand for the same column. -/
theorem compile_inj_service :
    (Expr.negation (.condition "costs.service" (.like true (.text "EC%")))).compile .records [] =
        .ok ("NOT (service NOT LIKE $1)", [.text "EC%"]) ∧
      (Expr.negation (.condition "resources.service" (.like true (.text "EC%")))).compile .records [] =
        .ok ("NOT (service NOT LIKE $1)", [.text "EC%"]) ∧
      (Expr.negation (.condition "costs.service" (.like true (.text "EC%")))).mapFields
          recordExpression =
        (Expr.negation (.condition "resources.service" (.like true (.text "EC%")))).mapFields
          recordExpression :=
  ⟨rfl, rfl, (compile_inj (.inl rfl) (by decide) (by decide) [] rfl rfl).2 rfl⟩

end CloudSpend.Filter
