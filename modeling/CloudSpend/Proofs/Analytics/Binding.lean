import CloudSpend.Analytics.CostQuery
import CloudSpend.Proofs.Filter.Pieces
import CloudSpend.Proofs.Filter.RoundTrip
import CloudSpend.Proofs.Outside.Run

/-! # The parameters of a cost query -/

namespace CloudSpend.Analytics

open List Run

/-! ### Marks for parameters -/

section Marks

inductive Mark where
  | next
  | numbered (i : Nat)
  deriving DecidableEq

inductive Part where
  | text (s : String)
  | mark (m : Mark)

def Mark.spelling : Mark → String
  | .next => "?"
  | .numbered i => "$" ++ toString i

def Part.spelling : Part → String
  | .text s => s
  | .mark m => m.spelling

def spell (ps : List Part) : String := String.join (ps.map Part.spelling)

def marks : List Part → List Mark
  | [] => []
  | .text _ :: ps => marks ps
  | .mark m :: ps => m :: marks ps

def denoted (params : List Value) : (taken : Nat) → List Mark → List (Option Value)
  | _, [] => []
  | taken, .next :: ms => params[taken]? :: denoted params (taken + 1) ms
  | taken, .numbered 0 :: ms => none :: denoted params taken ms
  | taken, .numbered (i + 1) :: ms => params[i]? :: denoted params taken ms

@[simp] lemma spell_nil : spell [] = "" := rfl

@[simp] lemma spell_cons (p : Part) (ps : List Part) : spell (p :: ps) = p.spelling ++ spell ps := by
  simp [spell]

@[simp] lemma spell_append (ps qs : List Part) : spell (ps ++ qs) = spell ps ++ spell qs := by
  simp [spell]

lemma spell_enclosed (a b : String) (ps : List Part) :
    spell (.text a :: ps ++ [.text b]) = a ++ spell ps ++ b := by
  simp [Part.spelling, String.append_assoc]

@[simp] lemma marks_append (ps qs : List Part) : marks (ps ++ qs) = marks ps ++ marks qs := by
  induction ps with
  | nil => rfl
  | cons p ps ih => cases p <;> simp [marks, ih]

lemma denoted_next (params base : List Value) (taken : Nat) (ms : List Mark)
    (h : ∀ i < base.length, params[taken + i]? = base[i]?) :
    denoted params taken (replicate base.length .next ++ ms) =
      base.map some ++ denoted params (taken + base.length) ms := by
  induction base generalizing taken with
  | nil => rfl
  | cons v base ih =>
    have hv : params[taken]? = some v := h 0 (by simp)
    have htail : ∀ i < base.length, params[taken + 1 + i]? = base[i]? := by
      intro i hi
      have := h (i + 1) (by simpa using hi)
      rwa [getElem?_cons_succ, ← Nat.add_assoc, Nat.add_right_comm] at this
    rw [length_cons, replicate_succ, cons_append, denoted, hv, ih _ htail,
      map_cons, cons_append, Nat.add_right_comm, Nat.add_assoc]

lemma denoted_numbered (params : List Value) (taken : Nat) (ns : List Nat) :
    denoted params taken (ns.map fun n => .numbered (n + 1)) = ns.map fun n => params[n]? := by
  induction ns with
  | nil => rfl
  | cons n ns ih => rw [map_cons, denoted, ih, map_cons]

def numberedAt (cs : List Char) : List Mark :=
  match cs.takeWhile Char.isDigit with
  | [] => []
  | d :: ds => [.numbered (Nat.ofDigitChars 10 (d :: ds) 0)]

def scan : List Char → List Mark
  | [] => []
  | c :: cs =>
    if c = '?' then .next :: scan cs
    else if c = '$' then numberedAt cs ++ scan cs
    else scan cs

def marksIn (s : String) : List Mark := scan s.toList

def EndsNumber (rest : List Char) : Prop := ∀ c ∈ rest.head?, c.isDigit = false

variable {rest : List Char} {s : String}

lemma EndsNumber.takeWhile (h : EndsNumber rest) : rest.takeWhile Char.isDigit = [] := by
  cases rest with
  | nil => rfl
  | cons c rest => simp [h c rfl]

lemma numberedAt_append (cs : List Char) (h : EndsNumber rest) :
    numberedAt (cs ++ rest) = numberedAt cs := by
  have htake : (cs ++ rest).takeWhile Char.isDigit = cs.takeWhile Char.isDigit := by
    rw [takeWhile_append, h.takeWhile, append_nil]
    split
    · next hlen => exact (( takeWhile_prefix _).eq_of_length hlen).symm
    · rfl
  rw [numberedAt, numberedAt, htake]

lemma scan_append (cs : List Char) (h : EndsNumber rest) :
    scan (cs ++ rest) = scan cs ++ scan rest := by
  induction cs with
  | nil => rfl
  | cons c cs ih =>
    rw [cons_append, scan, scan, ih, numberedAt_append cs h]
    split
    · rfl
    · split
      · rw [append_assoc]
      · rfl

lemma scan_of_marksIn (hs : marksIn s = []) (h : EndsNumber rest) :
    scan (s.toList ++ rest) = scan rest := by
  rw [scan_append _ h, ← marksIn, hs, nil_append]

def Unmarked (s : String) : Prop := ∀ c ∈ s.toList, c ≠ '?' ∧ c ≠ '$'

instance : DecidablePred Unmarked := fun s => decidableBAll _ s.toList

lemma Unmarked.append {t : String} (hs : Unmarked s) (ht : Unmarked t) : Unmarked (s ++ t) := by
  intro c hc
  rw [String.toList_append, mem_append] at hc
  exact hc.elim (hs c) (ht c)

lemma scan_unmarked (h : Unmarked s) (rest : List Char) : scan (s.toList ++ rest) = scan rest := by
  unfold Unmarked at h
  generalize s.toList = cs at h
  induction cs with
  | nil => rfl
  | cons c cs ih =>
    obtain ⟨hnext, hnum⟩ := h c (by simp)
    rw [cons_append, scan, if_neg hnext, if_neg hnum, ih fun d hd => h d (by simp [hd])]

lemma unmarked_ofDigits {cs : List Char} (h : ∀ c ∈ cs, c.isDigit) : Unmarked (String.ofList cs) := by
  intro c hc
  rw [String.toList_ofList] at hc
  refine ⟨?_, ?_⟩ <;>
    · rintro rfl
      exact absurd (h _ hc) (by decide)

lemma scan_numbered (i : Nat) (h : EndsNumber rest) :
    scan ((Mark.numbered i).spelling.toList ++ rest) = .numbered i :: scan rest := by
  have hdig : ∀ c ∈ Nat.toDigits 10 i, c.isDigit := fun c hc => Numeral.isDigit_of_mem_decimal hc
  have htext : (Mark.numbered i).spelling.toList = '$' :: Nat.toDigits 10 i := by
    simp [Mark.spelling]
  have hnum : numberedAt (Nat.toDigits 10 i) = [.numbered i] := by
    obtain ⟨d, ds, hds⟩ := exists_cons_of_ne_nil (Nat.toDigits_ne_nil (n := i) (b := 10))
    rw [numberedAt, takeWhile_eq_self_iff.mpr (by simpa using hdig), hds]
    simp only [← hds, Nat.ofDigitChars_ten_toDigits]
  have hdgi := scan_unmarked (unmarked_ofDigits hdig) rest
  rw [String.toList_ofList] at hdgi
  rw [htext, cons_append, scan, if_neg (by decide), if_pos rfl, numberedAt_append _ h, hnum,
    hdgi]
  rfl

end Marks

open CloudSpend.Filter

namespace CostQuery

def base (q : CostQuery) : List Value :=
  (Analytics.condition (.text q.start) (.text q.stop) (Value.ofText? q.account)).params

def parsed (q : CostQuery) : Query := parse (q.filter.getD "")

def baseParts (q : CostQuery) : List Part :=
  [.text "usage_date >= ", .mark .next, .text " AND usage_date < ", .mark .next] ++
    if (Value.ofText? q.account).truthy then [.text " AND account_id = ", .mark .next] else []

def ofPiece : Piece → Part
  | .written s => .text s
  | .named s => .text s
  | .slot n => .mark (.numbered (n + 1))

def filterParts (q : CostQuery) : List Part :=
  q.parsed.searched.elim [] fun e =>
    .text " AND " :: (e.fragment recordExpression 0).pieces.map ofPiece

def head (q : CostQuery) : String :=
  "SELECT CAST(" ++ period (.text q.granularity) ++ " AS VARCHAR) AS period, "
    ++ group q.groupBy ++ " AS group_value, SUM(amount) AS total_amount, currency FROM "

def tail (q : CostQuery) : String :=
  " GROUP BY period, group_value, currency ORDER BY period, total_amount DESC LIMIT "
    ++ toString q.limit

def parts (q : CostQuery) : List Part :=
  .text (q.head ++ view (Value.ofText? q.provider) ++ " WHERE ") ::
    (q.baseParts ++ q.filterParts) ++ [.text q.tail]

end CostQuery

lemma spell_map_ofPiece (ps : List Piece) :
    spell (ps.map CostQuery.ofPiece) = textOf Dialect.records.slot ps := by
  induction ps with
  | nil => rfl
  | cons p ps ih =>
    rw [map_cons, spell_cons, textOf_cons, ih]
    cases p <;> rfl

lemma marks_map_ofPiece (ps : List Piece) :
    marks (ps.map CostQuery.ofPiece) = (slotsOf ps).map fun n => .numbered (n + 1) := by
  induction ps with
  | nil => rfl
  | cons p ps ih => cases p <;> simp [CostQuery.ofPiece, marks, slotsOf, ih]

theorem range_map_getElem?_eq_iff {base vs : List Value} (hbase : base ≠ []) :
    (range vs.length).map (fun n => (base ++ vs)[n]?) = vs.map some ↔
      ∀ i < vs.length, vs[i]? = base[i % base.length]? := by
  have hpos : 0 < base.length := length_pos_iff.mpr hbase
  have hpoi : (range vs.length).map (fun n => (base ++ vs)[n]?) = vs.map some ↔
      ∀ i < vs.length, (base ++ vs)[i]? = vs[i]? := by
    constructor
    · intro h i hi
      have hi' := congrArg (fun l => l[i]?) h
      simpa [hi] using hi'
    · intro h
      refine ext_getElem (by simp) fun i hi _ => ?_
      have hi' : i < vs.length := by simpa using hi
      simpa [hi'] using h i hi'
  rw [hpoi]
  constructor
  · intro h i
    induction i using Nat.strong_induction_on with
    | _ i ih =>
      intro hi
      rw [← h i hi]
      by_cases hlt : i < base.length
      · rw [getElem?_append_left hlt, Nat.mod_eq_of_lt hlt]
      · have hle : base.length ≤ i := Nat.le_of_not_lt hlt
        rw [getElem?_append_right hle, ih (i - base.length) (by omega) (by omega),
          ← Nat.mod_eq_sub_mod hle]
  · intro h i hi
    by_cases hlt : i < base.length
    · rw [getElem?_append_left hlt, h i hi, Nat.mod_eq_of_lt hlt]
    · have hle : base.length ≤ i := Nat.le_of_not_lt hlt
      rw [getElem?_append_right hle, h i hi, h (i - base.length) (by omega),
        ← Nat.mod_eq_sub_mod hle]

namespace CostQuery

variable (q : CostQuery)

lemma spell_baseParts :
    (Analytics.condition (.text q.start) (.text q.stop) (Value.ofText? q.account)).sql =
      spell q.baseParts := by
  unfold Analytics.condition baseParts
  cases (Value.ofText? q.account).truthy <;> rfl

lemma marks_baseParts : marks q.baseParts = replicate q.base.length .next := by
  unfold base Analytics.condition baseParts
  cases (Value.ofText? q.account).truthy <;> rfl

lemma marks_filterParts :
    marks q.filterParts = (range q.parsed.values.length).map fun n => .numbered (n + 1) := by
  unfold filterParts Query.values
  cases q.parsed.searched with
  | none => rfl
  | some e =>
    rw [Option.elim_some, Option.elim_some, marks, marks_map_ofPiece, Fragment.slotsOf_pieces,
      Expr.slots_fragment, length_map, range_eq_range']

lemma marks_parts :
    marks q.parts = replicate q.base.length .next ++
      (range q.parsed.values.length).map fun n => .numbered (n + 1) := by
  simp [parts, marks, marks_baseParts, marks_filterParts]

theorem denoted_parts :
    denoted (q.base ++ q.parsed.values) 0 (marks q.parts) =
      q.base.map some ++
        (range q.parsed.values.length).map fun n => (q.base ++ q.parsed.values)[n]? := by
  rw [marks_parts, denoted_next, denoted_numbered]
  intro i hi
  rw [Nat.zero_add, getElem?_append_left hi]

lemma condition_eq {f : String} (hf : q.filter = some f) (hval : (parse f).isValid = true)
    (hdep : ∀ e ∈ (parse f).expression, e.depth ≤ maxDepth) :
    q.condition = .ok ⟨spell (q.baseParts ++ q.filterParts), q.base ++ q.parsed.values⟩ := by
  have hne : f.isEmpty = false := by
    rw [← Bool.not_eq_true, String.isEmpty_iff]
    rintro rfl
    exact absurd hval (by decide)
  have hpar : q.parsed = parse f := by simp [parsed, hf]
  have hfil : q.filterCondition = .ok (q.parsed.searched.map fun e =>
      ⟨(e.fragment recordExpression 0).text Dialect.records.slot, q.parsed.values⟩) := by
    rw [filterCondition, hf, hpar]
    simp only [hne, validate, hval, Query.condition_eq_ok .records hdep, Query.fragment]
    cases (parse f).searched with
    | none => rfl
    | some e =>
      have htext : ((e.fragment recordExpression 0).text Dialect.records.slot == "1=1") = false :=
        beq_eq_false_iff_ne.mpr (e.text_fragment_ne _ _ _)
      simpa [Except.map, Dialect.column] using htext
  rw [condition, hfil, spell_append, ← spell_baseParts, base, filterParts, Query.values]
  cases q.parsed.searched with
  | none => simp [bind, Except.bind, pure, Except.pure]
  | some e =>
    simp [bind, Except.bind, pure, Except.pure, spell_map_ofPiece, Fragment.textOf_pieces,
      Part.spelling, String.append_assoc]

lemma statement_eq_spell :
    q.statement (spell (q.baseParts ++ q.filterParts)) = spell q.parts := by
  unfold statement parts head tail
  rw [spell_enclosed]
  simp only [String.append_assoc]

end CostQuery

lemma exec_execute (sql : String) (params : List Value) (w : World) :
    (execute sql params).exec w =
      (w.outside.engine w.engine ⟨sql, params⟩,
        { w with engine := w.engine ++ [.statement ⟨sql, params⟩] }) := rfl

variable {w w₁ : World} {rest : List Char} {column op : String}

lemma engine_exec_query (sql : String) (params : List Value) (h : connect.exec w = (.ok (), w₁)) :
    ((query sql params).exec w).2.engine = w₁.engine ++ [.statement ⟨sql, params⟩] := by
  have hsend : (send sql params).exec w = (execute sql params).exec w₁ := exec_bind_ok h _
  rw [query, exec_bind, hsend, exec_execute]
  cases w₁.outside.engine w₁.engine ⟨sql, params⟩ <;> rfl

lemma CostQuery.engine_exec_run (q : CostQuery) {c : Condition} (hc : q.condition = .ok c)
    (h : connect.exec w = (.ok (), w₁)) :
    (q.run.exec w).2.engine = w₁.engine ++ [.statement ⟨q.statement c.sql, c.params⟩] := by
  have hque := engine_exec_query (q.statement c.sql) c.params h
  have hcon : (liftM q.condition : Run Condition).exec w = (.ok c, w) := by
    rw [exec_liftM, hc]
  rw [run, exec_bind_ok hcon, exec_bind, exec_recover]
  rcases hrun : (query (q.statement c.sql) c.params).exec w with ⟨e | rows, w2⟩
  · rw [hrun] at hque
    exact hque
  · rw [hrun] at hque
    simp only
    rw [exec_bind, exec_liftM]
    split <;> simp_all

lemma unmarked_operator (t : Test) : Unmarked t.operator := by
  cases t with
  | compare op v => cases op <;> simp only [Test.operator] <;> decide
  | like negated v => cases negated <;> simp only [Test.operator] <;> decide
  | member negated vs => cases negated <;> simp only [Test.operator] <;> decide

lemma scan_slots (ns : List Nat) (h : EndsNumber rest) :
    scan ((", ".intercalate (ns.map Dialect.records.slot)).toList ++ rest) =
      (ns.map fun n => .numbered (n + 1)) ++ scan rest := by
  induction ns with
  | nil => rfl
  | cons n ns ih =>
    have hslot : Dialect.records.slot n = (Mark.numbered (n + 1)).spelling := rfl
    cases ns with
    | nil => simpa [hslot] using scan_numbered (n + 1) h
    | cons m ns =>
      have hcom : EndsNumber
          (", ".toList ++ ((", ".intercalate ((m :: ns).map Dialect.records.slot)).toList ++ rest)) := by
        simp [EndsNumber]
      rw [map_cons, map_cons, String.intercalate_cons_cons, ← map_cons,
        String.toList_append, String.toList_append, append_assoc, append_assoc, hslot,
        scan_numbered _ hcom, scan_unmarked (by decide), ih]
      rfl

lemma scan_compare (n : Nat) (hcol : marksIn column = []) (hop : Unmarked op)
    (hrest : EndsNumber rest) :
    scan (((Fragment.compare column op n).text Dialect.records.slot).toList ++ rest) =
      .numbered (n + 1) :: scan rest := by
  have htext : ((Fragment.compare column op n).text Dialect.records.slot).toList ++ rest =
      column.toList ++ ((" " ++ op ++ " ").toList ++
        ((Mark.numbered (n + 1)).spelling.toList ++ rest)) := by
    simp [Fragment.text, Dialect.slot, Mark.spelling]
  have hbla : EndsNumber ((" " ++ op ++ " ").toList ++
      ((Mark.numbered (n + 1)).spelling.toList ++ rest)) := by
    simp [EndsNumber]
  rw [htext, scan_of_marksIn hcol hbla,
    scan_unmarked (((by decide : Unmarked " ").append hop).append (by decide)), scan_numbered _ hrest]

lemma scan_member (ns : List Nat) (hcol : marksIn column = []) (hop : Unmarked op) (rest : List Char) :
    scan (((Fragment.member column op ns).text Dialect.records.slot).toList ++ rest) =
      (ns.map fun n => .numbered (n + 1)) ++ scan rest := by
  have htext : ((Fragment.member column op ns).text Dialect.records.slot).toList ++ rest =
      column.toList ++ ((" " ++ op ++ " (").toList ++
        ((", ".intercalate (ns.map Dialect.records.slot)).toList ++ (")".toList ++ rest))) := by
    simp [Fragment.text]
  have hbla : EndsNumber ((" " ++ op ++ " (").toList ++
      ((", ".intercalate (ns.map Dialect.records.slot)).toList ++ (")".toList ++ rest))) := by
    simp [EndsNumber]
  have hclo : EndsNumber (")".toList ++ rest) := by simp [EndsNumber]
  rw [htext, scan_of_marksIn hcol hbla,
    scan_unmarked (((by decide : Unmarked " ").append hop).append (by decide)),
    scan_slots ns hclo, scan_unmarked (by decide)]

lemma scan_fragment (e : Expr) (first : Nat) (h : ∀ f ∈ e.fields, marksIn (recordExpression f) = [])
    (hrest : EndsNumber rest) :
    scan (((e.fragment recordExpression first).text Dialect.records.slot).toList ++ rest) =
      ((e.fragment recordExpression first).slots.map fun n => .numbered (n + 1)) ++ scan rest := by
  induction e generalizing first rest with
  | condition f t =>
    have hcol := h f (by simp [Expr.fields])
    cases t with
    | compare op v => exact scan_compare first hcol (unmarked_operator (.compare op v)) hrest
    | like negated v => exact scan_compare first hcol (unmarked_operator (.like negated v)) hrest
    | member negated vs =>
      exact scan_member _ hcol (unmarked_operator (.member negated vs)) rest
  | logical op l r ihl ihr =>
    have hop : Unmarked (" " ++ op.text ++ " ") := by cases op <;> decide
    have hclo : EndsNumber (")".toList ++ rest) := by simp [EndsNumber]
    have hbla : ∀ more, EndsNumber ((" " ++ op.text ++ " ").toList ++ more) := by
      simp [EndsNumber]
    have htext : (((Expr.logical op l r).fragment recordExpression first).text
          Dialect.records.slot).toList ++ rest =
        "(".toList ++ (((l.fragment recordExpression first).text Dialect.records.slot).toList ++
          ((" " ++ op.text ++ " ").toList ++
            (((r.fragment recordExpression (first + l.literals.length)).text
              Dialect.records.slot).toList ++ (")".toList ++ rest)))) := by
      simp [Expr.fragment, Fragment.text]
    rw [htext, scan_unmarked (by decide),
      ihl first (fun f hf => h f (mem_append_left _ hf)) (hbla _), scan_unmarked hop,
      ihr _ (fun f hf => h f (mem_append_right _ hf)) hclo, scan_unmarked (by decide),
      Expr.fragment, Fragment.slots, map_append, append_assoc]
  | negation e ih =>
    have hclo : EndsNumber (")".toList ++ rest) := by simp [EndsNumber]
    have htext : (((Expr.negation e).fragment recordExpression first).text
          Dialect.records.slot).toList ++ rest =
        "NOT (".toList ++ (((e.fragment recordExpression first).text Dialect.records.slot).toList ++
          (")".toList ++ rest)) := by
      simp [Expr.fragment, Fragment.text]
    rw [htext, scan_unmarked (by decide), ih first h hclo, scan_unmarked (by decide)]
    rfl

namespace CostQuery

variable (q : CostQuery)

lemma unmarked_head : Unmarked q.head := by
  have hgro : ∀ g ∈ groups, Unmarked g := by decide
  have hper : Unmarked (period (.text q.granularity)) := by
    unfold period
    split
    · decide
    · split <;> decide
  have hgou : Unmarked (group q.groupBy) := by
    unfold group
    split
    · next h => exact hgro _ (by simpa using h)
    · decide
  unfold head
  exact ((((by decide : Unmarked "SELECT CAST(").append hper).append (by decide)).append
    hgou).append (by decide)

lemma unmarked_tail : Unmarked q.tail := by
  have hlim : Unmarked (toString q.limit) := by
    intro c hc
    rcases Numeral.sign_or_digit_of_mem hc with rfl | hdig
    · decide
    · refine ⟨?_, ?_⟩ <;>
        · rintro rfl
          exact absurd hdig (by decide)
  unfold tail
  exact Unmarked.append (by decide) hlim

lemma scan_baseParts (rest : List Char) :
    scan ((spell q.baseParts).toList ++ rest) = marks q.baseParts ++ scan rest := by
  unfold baseParts
  cases (Value.ofText? q.account).truthy <;> rfl

lemma scan_filterParts
    (hfie : ∀ e ∈ q.parsed.searched, ∀ f ∈ e.fields, marksIn (recordExpression f) = [])
    (hrest : EndsNumber rest) :
    scan ((spell q.filterParts).toList ++ rest) = marks q.filterParts ++ scan rest := by
  unfold filterParts
  cases hsea : q.parsed.searched with
  | none => rfl
  | some e =>
    rw [Option.elim_some, spell_cons, spell_map_ofPiece, Fragment.textOf_pieces, Part.spelling,
      String.toList_append, append_assoc, scan_unmarked (by decide),
      scan_fragment e 0 (hfie e hsea) hrest, marks, marks_map_ofPiece,
      Fragment.slotsOf_pieces]

theorem marksIn_spell_parts (hpro : marksIn (view (Value.ofText? q.provider)) = [])
    (hfie : ∀ e ∈ q.parsed.searched, ∀ f ∈ e.fields, marksIn (recordExpression f) = []) :
    marksIn (spell q.parts) = marks q.parts := by
  have htail : EndsNumber q.tail.toList := by
    unfold tail
    rw [String.toList_append]
    rintro c ⟨⟩
    rfl
  have htext : (spell q.parts).toList = q.head.toList ++
      ((view (Value.ofText? q.provider)).toList ++ (" WHERE ".toList ++
        ((spell q.baseParts).toList ++ ((spell q.filterParts).toList ++ q.tail.toList)))) := by
    rw [parts, spell_enclosed, spell_append]
    simp only [String.toList_append, append_assoc]
  have hscan : scan q.tail.toList = [] := by
    simpa [scan] using scan_unmarked q.unmarked_tail []
  have hwhe : ∀ more, EndsNumber (" WHERE ".toList ++ more) := by simp [EndsNumber]
  rw [marksIn, htext, scan_unmarked q.unmarked_head, scan_of_marksIn hpro (hwhe _),
    scan_unmarked (by decide), scan_baseParts, scan_filterParts q hfie htail, hscan, parts]
  simp [marks]

end CostQuery

/-- **What the marks of a cost query denote.** A cost query with a valid filter sends one statement once the engine is
open. Its question marks denote the days and the account. -/
theorem filter_binding_iff (q : CostQuery) (f : String) (hf : q.filter = some f)
    (hvalid : (parse f).isValid = true)
    (hdepth : ∀ e ∈ (parse f).expression, e.depth ≤ maxDepth) :
    (∀ w w₁, connect.exec w = (.ok (), w₁) →
      (q.run.exec w).2.engine =
        w₁.engine ++ [.statement ⟨spell q.parts, q.base ++ (parse f).values⟩]) ∧
    (marksIn (view (Value.ofText? q.provider)) = [] →
      (∀ e ∈ (parse f).searched, ∀ g ∈ e.fields, marksIn (recordExpression g) = []) →
        marksIn (spell q.parts) = marks q.parts) ∧
    (denoted (q.base ++ (parse f).values) 0 (marks q.parts)).take q.base.length =
      q.base.map some ∧
    (denoted (q.base ++ (parse f).values) 0 (marks q.parts) =
        (q.base ++ (parse f).values).map some ↔
      ∀ i < (parse f).values.length, (parse f).values[i]? = q.base[i % q.base.length]?) := by
  have hpar : q.parsed = parse f := by simp [CostQuery.parsed, hf]
  have hcon := q.condition_eq hf hvalid hdepth
  have hden := q.denoted_parts
  have hbase : q.base ≠ [] := by
    unfold CostQuery.base Analytics.condition
    split <;> simp
  rw [hpar] at hcon hden
  refine ⟨?_, ?_, ?_, ?_⟩
  · intro w w₁ h
    rw [q.engine_exec_run hcon h, q.statement_eq_spell]
  · intro hpro hfie
    rw [← hpar] at hfie
    exact q.marksIn_spell_parts hpro hfie
  · rw [hden]
    simp
  · rw [hden, map_append, append_cancel_left_eq]
    exact range_map_getElem?_eq_iff hbase

def januaryWith (filter : String) : CostQuery :=
  ⟨some filter, "2026-01-01", "2026-02-01", "service", "day", none, none, 1000⟩

/-- The number of a literal that repeats the first day denotes what it should. -/
theorem filter_binding_of_first_day :
    (parse "costs.date = '2026-01-01'").isValid = true ∧
      denoted [.text "2026-01-01", .text "2026-02-01", .text "2026-01-01"] 0
          (marks (januaryWith "costs.date = '2026-01-01'").parts) =
        [some (.text "2026-01-01"), some (.text "2026-02-01"), some (.text "2026-01-01")] := by
  have hpar : parse "costs.date = '2026-01-01'" = ⟨"costs.date = '2026-01-01'",
      some (.condition "costs.date" (.compare .eq (.text "2026-01-01"))), []⟩ := parse_of_valid (by decide +kernel)
  have hval : (parse "costs.date = '2026-01-01'").isValid = true := by rw [hpar]; rfl
  have hvlu : (parse "costs.date = '2026-01-01'").values = [.text "2026-01-01"] := by
    rw [hpar]
    rfl
  obtain ⟨-, -, -, hiff⟩ := filter_binding_iff (januaryWith "costs.date = '2026-01-01'")
    "costs.date = '2026-01-01'" rfl hval (by decide +kernel)
  rw [hvlu] at hiff
  refine ⟨hval, hiff.mpr ?_⟩
  intro i hi
  have hzero : i = 0 := by simpa using hi
  rw [hzero]
  rfl

/-- The number of any other literal does not: of a filter for a region it denotes the first day. -/
theorem region_denotes_first_day :
    (januaryWith "costs.region = 'us-east-1'").condition =
        .ok ⟨"usage_date >= ? AND usage_date < ? AND region = $1",
          [.text "2026-01-01", .text "2026-02-01", .text "us-east-1"]⟩ ∧
      denoted [.text "2026-01-01", .text "2026-02-01", .text "us-east-1"] 0
          (marksIn ((januaryWith "costs.region = 'us-east-1'").statement
            "usage_date >= ? AND usage_date < ? AND region = $1")) =
        [some (.text "2026-01-01"), some (.text "2026-02-01"), some (.text "2026-01-01")] := by
  have hpar : parse "costs.region = 'us-east-1'" = ⟨"costs.region = 'us-east-1'",
      some (.condition "costs.region" (.compare .eq (.text "us-east-1"))), []⟩ := parse_of_valid (by decide +kernel)
  have hmar : marksIn ((januaryWith "costs.region = 'us-east-1'").statement
      "usage_date >= ? AND usage_date < ? AND region = $1") = [.next, .next, .numbered 1] := by decide +kernel
  refine ⟨?_, by rw [hmar]; rfl⟩
  unfold CostQuery.condition CostQuery.filterCondition validate
  simp only [januaryWith, hpar]
  rfl

end CloudSpend.Analytics
