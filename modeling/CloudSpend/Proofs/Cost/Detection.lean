import CloudSpend.Cost.Anomaly
import CloudSpend.Proofs.Cost.StoredAndLive
import CloudSpend.Proofs.Numeral.Rounding
import CloudSpend.Proofs.Source.Ingest

/-! # What a detector reports -/

namespace CloudSpend.Cost

open List Result Arithmetic Detector Entries Numeral Span Value Date

abbrev Expense := Record String Date Float

def Tells (row : Value) (r : Expense) : Prop :=
  ∃ amount, Record.read row = .ok ⟨.date r.day, .text r.service, amount⟩ ∧ amount.isNumber = true ∧
    amount.toFloat = .ok r.amount

def servicesOf (rs : List Expense) : List String := (rs.map (·.service)).eraseDups

def daysOf (rs : List Expense) : List Date := (rs.map (·.day)).eraseDups

def ofService (rs : List Expense) (s : String) : List Expense := rs.filter (·.service == s)

def spent (rs : List Expense) (e : Date) : Float :=
  (rs.filter (·.day == e)).foldl (fun sum r => sum + r.amount) (ofDecimal 0 0)

variable {rs : List Expense} {r : Expense} {v w amount : Value} {x y : Float} {s : String} {e t : Date}

lemma date_beq (d e : Date) : ((.date d : Value) == .date e) = decide (d = e) := rfl

lemma toFloat_of_isNumber (hv : v.isNumber = true) : v.toFloat = match v with
    | .float x => .ok x
    | v => match v.int? with
      | some n => intToFloat n
      | none => .error (.noFloat v.kind) := by
  cases v with
  | float | int | bool => rfl
  | null | text | list | object | date | timestamp => cases hv

lemma add_of_isNumber (x : Float) (hv : v.isNumber = true) (hy : v.toFloat = .ok y) :
    Value.add (.float x) v = .ok (.float (x + y)) := by
  rw [toFloat_of_isNumber hv] at hy
  cases v with
  | float z =>
    cases hy
    rfl
  | int n | bool b =>
    simp only [Value.int?] at hy
    simp [Value.add, Value.pair?, Value.int?, hy, Except.map]
  | null | text | list | object | date | timestamp => cases hv

lemma exists_precedes (op : String) (strict : Bool) (hv : v.isNumber = true) (hw : w.isNumber = true) :
    ∃ b, precedes op strict v w = .ok b := by
  cases v with
  | float | int | bool =>
    cases w with
    | float | int | bool => exact ⟨_, rfl⟩
    | null | text | list | object | date | timestamp => cases hw
  | null | text | list | object | date | timestamp => cases hv

lemma exists_lt (hv : v.isNumber = true) (hw : w.isNumber = true) : ∃ b, v.lt w = .ok b :=
  exists_precedes _ _ hv hw

lemma exists_ge (hv : v.isNumber = true) (hw : w.isNumber = true) : ∃ b, v.ge w = .ok b := by
  obtain ⟨b, hb⟩ := exists_precedes "<=" false hw hv
  have hle : w.le v = .ok b := hb
  exact ⟨b, by rw [Value.ge, hle]⟩

def daySums (rs : List Expense) : List (Value × Value) :=
  tabulate date (daysOf rs) fun e => .float (spent rs e)

def historyOf (rs : List Expense) : History Value Value Value :=
  tabulate Value.text (servicesOf rs) fun s => daySums (ofService rs s)

lemma spent_concat (rs : List Expense) (r : Expense) (e : Date) :
    spent (rs ++ [r]) e = if e = r.day then spent rs e + r.amount else spent rs e := by
  unfold spent
  grind

lemma spent_of_not_mem (h : e ∉ daysOf rs) : spent rs e = ofDecimal 0 0 := by
  have hnone : rs.filter (·.day == e) = [] := by
    simp only [daysOf, mem_eraseDups, mem_map, not_exists, not_and] at h
    simpa [filter_eq_nil_iff] using h
  rw [spent, hnone]
  rfl

lemma get?_daySums (rs : List Expense) (e : Date) : get? (daySums rs) (date e) =
    if e ∈ daysOf rs then some (.float (spent rs e)) else none :=
  get?_tabulate date_beq _ _ e

lemma accumulate_daySums (rs : List Expense) (hnum : amount.isNumber = true)
    (hamo : amount.toFloat = .ok r.amount) :
    Arithmetic.accumulate Arithmetic.nought (daySums rs) (Value.date r.day) amount = .ok (daySums (rs ++ [r])) := by
  have hsum : (Entries.get? (daySums rs) (Value.date r.day)).getD Arithmetic.nought = .float (spent rs r.day) := by
    rw [get?_daySums]
    split
    · rfl
    · next h =>
        rw [spent_of_not_mem h]
        rfl
  have hsums : (fun e => if e = r.day then Value.float (spent rs r.day + r.amount) else .float (spent rs e)) =
      fun e => .float (spent (rs ++ [r]) e) := by
    funext e
    rw [spent_concat]
    split
    · next h => rw [h]
    · rfl
  have hadd : Arithmetic.add (Value.float (spent rs r.day)) amount = .ok (.float (spent rs r.day + r.amount)) :=
    add_of_isNumber _ hnum hamo
  rw [Arithmetic.accumulate, hsum, hadd, Except.map]
  unfold daySums daysOf
  rw [Entries.put_tabulate date_beq (nodup_eraseDups _), hsums, map_append, map_singleton, eraseDups_concat]

lemma ofService_concat (rs : List Expense) (r : Expense) (s : String) :
    ofService (rs ++ [r]) s = if s = r.service then ofService rs s ++ [r] else ofService rs s := by
  unfold ofService
  grind

lemma ofService_eq_nil (h : s ∉ servicesOf rs) : ofService rs s = [] := by
  simp only [servicesOf, mem_eraseDups, mem_map, not_exists, not_and] at h
  simpa [ofService, filter_eq_nil_iff] using h

lemma add_historyOf (rs : List Expense) (hnum : amount.isNumber = true) (hamo : amount.toFloat = .ok r.amount) :
    History.add (historyOf rs) ⟨.date r.day, .text r.service, amount⟩ = .ok (historyOf (rs ++ [r])) := by
  have hdays : (get? (historyOf rs) (Value.text r.service)).getD [] = daySums (ofService rs r.service) := by
    rw [historyOf, get?_tabulate text_beq]
    split
    · rfl
    · next h =>
        rw [ofService_eq_nil h]
        rfl
  have hser : (fun s => if s = r.service then daySums (ofService rs r.service ++ [r]) else
      daySums (ofService rs s)) = fun s => daySums (ofService (rs ++ [r]) s) := by
    funext s
    rw [ofService_concat]
    split
    · next h => rw [h]
    · rfl
  rw [History.add, hdays, accumulate_daySums _ hnum hamo, Except.map]
  unfold historyOf servicesOf
  rw [put_tabulate text_beq (nodup_eraseDups _), hser, map_append, map_singleton,
    eraseDups_concat]

lemma foldlM_add_eq {rows : List Value} (h : List.Forall₂ Tells rows rs) (before : List Expense) :
    rows.foldlM (fun h row => do History.add h (← Record.read row)) (historyOf before) =
      .ok (historyOf (before ++ rs)) := by
  induction h generalizing before with
  | nil =>
    rw [append_nil]
    rfl
  | @cons row r rows rs htel _ ih =>
    obtain ⟨amount, hread, hnum, hamo⟩ := htel
    have hstep : (do History.add (historyOf before) (← Record.read row)) = .ok (historyOf (before ++ [r])) := by
      rw [hread]
      exact add_historyOf before hnum hamo
    rw [foldlM_cons, hstep, append_cons before r rs]
    exact ih (before ++ [r])

def earlier (t : Date) (n : Nat) : List Date := (range n).filterMap fun (i : Nat) => t.addDays? (-(i + 1 : Int))

def pastSums (rs : List Expense) (t : Date) (n : Nat) : List Float :=
  ((earlier t n).filter (· ∈ daysOf rs)).map (spent rs)

def costOn (rs : List Expense) (t : Date) : Value := if t ∈ daysOf rs then .float (spent rs t) else .int 0

variable {n : Int} {d : Detector Value} {first : Date} {xs : List Float} {k : Nat}

lemma days_of_ofDays {span : Span} (h : ofDays n = .ok span) :
    span.days = n ∧ -999999999 ≤ n ∧ n ≤ 999999999 := by
  have hdays : (Span.mk (n * dayMicros)).days = n := Int.mul_fdiv_cancel _ (by decide)
  unfold ofDays ofMicros at h
  grind

lemma ofDays_of_le (hlow : -999999999 ≤ n) (hhigh : n ≤ 999999999) :
    ∃ span, ofDays n = .ok span ∧ span.days = n :=
  ⟨_, ofDays_eq_ok hlow hhigh, Int.mul_fdiv_cancel _ (by decide)⟩

lemma moved_eq_ok {m : Int} (h : t.moved m = .ok e) : t.addDays? m = some e := by
  unfold moved at h
  split at h
  · next hsome =>
      cases h
      exact hsome
  · cases h

lemma moved_of_before (h : t.before n = .ok first) :
    -999999999 ≤ n ∧ n ≤ 999999999 ∧ t.moved (-n) = .ok first := by
  unfold before at h
  cases hspan : ofDays n with
  | error err =>
    rw [hspan] at h
    cases h
  | ok span =>
    obtain ⟨hdays, hlow, hhigh⟩ := days_of_ofDays hspan
    rw [hspan] at h
    have hmov : t.moved (-span.days) = .ok first := h
    rw [hdays] at hmov
    exact ⟨hlow, hhigh, hmov⟩

lemma amountBefore_eq (ht : t.ordinal ≤ maxOrdinal) (hfir : t.before n = .ok first)
    (days : List (Value × Value)) {i : Nat} (hi : i < n.toNat) : amountBefore (date t) days (i + 1) =
      .ok ((t.addDays? (-(i + 1 : Int))).bind fun e => get? days (.date e)) := by
  obtain ⟨hlow, hhigh, hmov⟩ := moved_of_before hfir
  obtain ⟨span', hspan', hdays'⟩ := ofDays_of_le (n := (i + 1 : Nat)) (by omega) (by omega)
  have hday : ∃ e, t.addDays? (-(i + 1 : Int)) = some e := by
    have hsome := moved_eq_ok hmov
    unfold addDays? at hsome ⊢
    grind
  obtain ⟨e, he⟩ := hday
  have hbef : Days.before (date t) span' = .ok (.date e) := by
    have hmov' : t.moved (-span'.days) = .ok e := by
      rw [moved, hdays']
      push_cast
      rw [he]
    have hdate : Days.before (date t) span' = (t.moved (-span'.days)).map .date := rfl
    rw [hdate, hmov']
    rfl
  unfold amountBefore
  rw [hspan', he]
  simp only [bind, Except.bind, hbef]
  rfl

lemma lookbackAmounts_eq (hloo : d.lookback.int? = some n) (ht : t.ordinal ≤ maxOrdinal)
    (hfir : t.before n = .ok first) (rs : List Expense) :
    d.lookbackAmounts (date t) (daySums rs) = .ok ((pastSums rs t n.toNat).map .float) := by
  have hcou : d.lookbackCount = .ok n.toNat := by
    rw [lookbackCount, hloo]
  have hfou := Billing.mapM_eq_ok fun i hi =>
    amountBefore_eq ht hfir (daySums rs) (mem_range.mp hi)
  have hsums : ∀ es : List Date, es.filterMap (fun e => get? (daySums rs) (date e)) =
      ((es.filter (· ∈ daysOf rs)).map (spent rs)).map .float := by
    intro es
    induction es with
    | nil => rfl
    | cons e es ih =>
      rw [filterMap_cons, get?_daySums, ih]
      by_cases he : e ∈ daysOf rs <;> simp [he]
  rw [lookbackAmounts, hcou]
  simp only [bind, Except.bind, hfou, pure, Except.pure]
  rw [filterMap_map, pastSums, ← hsums, earlier, filterMap_filterMap]
  rfl

def averageBefore (rs : List Expense) (t : Date) (n : Nat) : Result Value :=
  mean ((pastSums rs t n).map Value.float)

structure Deviates (d : Detector Value) (t : Date) (n : Nat) (rs : List Expense) (deviation : Result Value) : Prop where
  costly : (costOn rs t).lt d.minimum = .ok false
  known : leastHistory ≤ (pastSums rs t n).length
  considerable : ∀ average, averageBefore rs t n = .ok average → average.lt (Arithmetic.ofDecimal 1 2) = .ok false
  quotient : (do let average ← averageBefore rs t n; (← (costOn rs t).sub average).div average) = deviation

def Reaches (d : Detector Value) (deviation : Value) : Severity → Prop
  | .critical => deviation.ge d.critical = .ok true
  | .warning => deviation.ge d.critical = .ok false ∧ deviation.ge d.warning = .ok true
  | .info => deviation.ge d.critical = .ok false ∧ deviation.ge d.warning = .ok false ∧
      deviation.ge d.info = .ok true

structure IsNumeric (d : Detector Value) : Prop where
  info : d.info.isNumber = true
  warning : d.warning.isNumber = true
  critical : d.critical.isNumber = true
  minimum : d.minimum.isNumber = true

lemma isFloatOrZero_costOn (rs : List Expense) (t : Date) : ∃ x, costOn rs t = .float x ∨ costOn rs t = .int 0 := by
  unfold costOn
  split
  · exact ⟨_, .inl rfl⟩
  · exact ⟨0, .inr rfl⟩

lemma isNumber_costOn (rs : List Expense) (t : Date) : (costOn rs t).isNumber = true := by
  unfold costOn
  split <;> rfl

lemma div_float (x y : Float) :
    (∃ z, (Value.float x).div (.float y) = .ok (.float z)) ∨
      (Value.float x).div (.float y) = .error (.divisionByZero true) := by
  have hdiv : (Value.float x).div (.float y) =
      if y == 0 then .error (.divisionByZero true) else .ok (.float (x / y)) := rfl
  rw [hdiv]
  split
  · exact .inr rfl
  · exact .inl ⟨_, rfl⟩

lemma le_largest {m : Nat} (h : m ≤ 999999999) (exponent : Nat) : m ≤ largest exponent * 1 := by
  have hman : 999999999 ≤ 2 ^ 53 - 1 := by decide
  rw [Nat.mul_one, largest]
  grind

lemma exists_intToFloat {k : Int} (h : k.natAbs ≤ 999999999) : ∃ x, intToFloat k = .ok x := by
  have hone : 1 ≠ 0 := Nat.one_ne_zero
  have hlar := le_largest h 971
  obtain ⟨x, hx⟩ := exists_nearest?_eq (decide (k < 0)) hone hlar
  exact ⟨x, by rw [intToFloat, ofInt?, hx]⟩

lemma sum_floats (xs : List Float) (start : Float) :
    ∃ z, (xs.map Value.float).foldlM add (Value.float start) = .ok (.float z) := by
  induction xs generalizing start with
  | nil => exact ⟨start, rfl⟩
  | cons x xs ih => exact ih (start + x)

lemma mean_eq_div (hne : xs ≠ []) (hlen : xs.length ≤ 999999999) :
    ∃ total count, Value.intToFloat xs.length = .ok count ∧
      Arithmetic.mean (xs.map Value.float) = (Value.float total).div (.float count) := by
  obtain ⟨zero, hzero⟩ := exists_intToFloat (k := 0) (by decide)
  obtain ⟨count, hcou⟩ := exists_intToFloat (k := xs.length) (by simpa using hlen)
  obtain ⟨x, xs, rfl⟩ := exists_cons_of_ne_nil hne
  obtain ⟨total, htot⟩ := sum_floats xs (zero + x)
  have hsum : Arithmetic.sum ((x :: xs).map Value.float) = .ok (.float total) := by
    have hadd : Arithmetic.add (Value.int 0) (.float x) = .ok (.float (zero + x)) := by
      have hpair : Arithmetic.add (Value.int 0) (.float x) = Value.add (.int 0) (.float x) := rfl
      rw [hpair]
      simp [Value.add, Value.pair?, Value.int?, hzero, Except.map]
    unfold Arithmetic.sum
    rw [map_cons, foldlM_cons]
    have hsta : (Arithmetic.ofInt 0 : Value) = .int 0 := rfl
    rw [hsta, hadd]
    exact htot
  have hdiv : (Value.float total).div (.int (x :: xs).length) = (Value.float total).div (.float count) := by
    simp only [Value.div, Value.pair?, Value.int?, hcou, Option.map_some, Except.map]
  refine ⟨total, count, hcou, ?_⟩
  unfold Arithmetic.mean
  rw [hsum, length_map]
  exact hdiv

lemma mean_floats (hne : xs ≠ []) (hlen : xs.length ≤ 999999999) :
    (∃ z, mean (xs.map Value.float) = .ok (.float z)) ∨
      mean (xs.map Value.float) = .error (.divisionByZero true) := by
  obtain ⟨total, count, -, hmean⟩ := mean_eq_div hne hlen
  rw [hmean]
  exact div_float total count

lemma sub_float (hv : ∃ b, v = .float b ∨ v = .int 0) (y : Float) : ∃ z, v.sub (.float y) = .ok (.float z) := by
  obtain ⟨zero, hzero⟩ := exists_intToFloat (k := 0) (by decide)
  obtain ⟨x, rfl | rfl⟩ := hv
  · exact ⟨_, rfl⟩
  · exact ⟨zero - y, by simp [Value.sub, Value.pair?, Value.int?, hzero, Except.map]⟩

lemma exists_round_costOn (rs : List Expense) (t : Date) (places : Nat) :
    ∃ z, (costOn rs t).round places = .ok z := by
  unfold costOn
  split
  · obtain ⟨y, hy⟩ := exists_roundTo?_eq (spent rs t) places
    exact ⟨.float y, by rw [Value.round, hy]⟩
  · exact ⟨.int 0, rfl⟩

lemma exists_round_float (x : Float) (places : Nat) : ∃ z, (Value.float x).round places = .ok z := by
  obtain ⟨y, hy⟩ := exists_roundTo?_eq x places
  exact ⟨.float y, by rw [Value.round, hy]⟩

lemma classify_eq (hd : IsNumeric d) (hv : v.isNumber = true) :
    ∃ o, d.classify v = .ok o ∧ ∀ severity, o = some severity ↔ Reaches d v severity := by
  obtain ⟨c, hc⟩ := exists_ge hv hd.critical
  obtain ⟨w, hw⟩ := exists_ge hv hd.warning
  obtain ⟨i, hi⟩ := exists_ge hv hd.info
  have hcla : d.classify v =
      if c then .ok (some .critical) else if w then .ok (some .warning) else if i then .ok (some .info)
      else .ok none := by
    have hc' : Arithmetic.ge v d.critical = .ok c := hc
    have hw' : Arithmetic.ge v d.warning = .ok w := hw
    have hi' : Arithmetic.ge v d.info = .ok i := hi
    unfold Detector.classify
    rw [hc', hw', hi']
    cases c <;> cases w <;> cases i <;> rfl
  rw [hcla]
  cases c <;> cases w <;> cases i <;> refine ⟨_, rfl, fun severity => ?_⟩ <;> cases severity <;>
    simp [Reaches, hc, hw, hi]

def IsReported (d : Detector Value) (t : Date) (n : Nat) (rs : List Expense) (severity : Severity) : Prop :=
  ∃ deviation, Deviates d t n rs (.ok deviation) ∧ Reaches d deviation severity

def IsUndefined (d : Detector Value) (t : Date) (n : Nat) (rs : List Expense) : Prop :=
  Deviates d t n rs (.error (.divisionByZero true))

lemma length_pastSums_le (rs : List Expense) (t : Date) (n : Nat) : (pastSums rs t n).length ≤ n := by
  rw [pastSums, length_map]
  refine (length_filter_le _ _).trans ((length_filterMap_le _ _).trans ?_)
  rw [length_range]

structure Judged (d : Detector Value) (t : Date) (n : Nat) (rs : List Expense) (s : String)
    (o : Option (Anomaly Value Value Value)) : Prop where
  defined : ¬ IsUndefined d t n rs
  told : ∀ a, o = some a → a.day = .date t ∧ a.service = .text s
  severity : ∀ severity, o.map (·.severity) = some severity ↔ IsReported d t n rs severity

def Assessed (d : Detector Value) (t : Date) (n : Nat) (rs : List Expense) (s : String)
    (result : Result (Option (Anomaly Value Value Value))) : Prop :=
  result = .error (.divisionByZero true) ∧ IsUndefined d t n rs ∨ ∃ o, result = .ok o ∧ Judged d t n rs s o

lemma assessed_none (h : ∀ deviation, ¬ Deviates d t k rs deviation) : Assessed d t k rs s (.ok none) := by
  refine .inr ⟨none, rfl, h _, fun _ ha => (nomatch ha), fun severity => ⟨fun hsev => (nomatch hsev), ?_⟩⟩
  rintro ⟨_, hdev, -⟩
  exact absurd hdev (h _)

lemma weigh_pastSums (hd : IsNumeric d) (hcos : (costOn rs t).lt d.minimum = .ok false)
    (hkno : leastHistory ≤ (pastSums rs t k).length) (hk : k ≤ 999999999) (s : String) :
    Assessed d t k rs s
      (d.weigh (Value.date t) (Value.text s) (costOn rs t) ((pastSums rs t k).map .float)) := by
  have hne : pastSums rs t k ≠ [] := by
    intro hnil
    rw [hnil] at hkno
    exact absurd hkno (by decide)
  have hsame : Arithmetic.mean ((pastSums rs t k).map Value.float) = averageBefore rs t k := rfl
  unfold Detector.weigh
  rw [hsame]
  rcases mean_floats hne ((length_pastSums_le rs t k).trans hk) with ⟨average, hmean⟩ | hmean
  · rw [hsame] at hmean
    obtain ⟨small, hsma⟩ : ∃ small, (Value.float average).lt (Arithmetic.ofDecimal 1 2) = .ok small :=
      exists_lt rfl rfl
    have hsma' : Arithmetic.lt (Value.float average) (Arithmetic.ofDecimal 1 2) = .ok small := hsma
    rw [hmean]
    simp only [bind, Except.bind, hsma']
    cases small with
    | true =>
      refine assessed_none fun deviation hdev => ?_
      cases hsma.symm.trans (hdev.considerable _ hmean)
    | false =>
      obtain ⟨difference, hsub⟩ := sub_float (isFloatOrZero_costOn rs t) average
      have hsub' : Arithmetic.sub (costOn rs t) (Value.float average) = .ok (.float difference) := hsub
      have hcon : ∀ average', averageBefore rs t k = .ok average' →
          average'.lt (Arithmetic.ofDecimal 1 2) = .ok false := by
        intro average' hmean'
        cases hmean.symm.trans hmean'
        exact hsma
      have hquo : (do let average ← averageBefore rs t k; (← (costOn rs t).sub average).div average) =
          (Value.float difference).div (.float average) := by
        rw [hmean]
        simp only [bind, Except.bind, hsub]
      have hdev : Deviates d t k rs ((Value.float difference).div (.float average)) :=
        ⟨hcos, hkno, hcon, hquo⟩
      rcases div_float difference average with ⟨deviation, hdiv⟩ | hdiv
      · have hdiv' : Arithmetic.div (Value.float difference) (Value.float average) = .ok (.float deviation) := hdiv
        rw [hdiv] at hquo hdev
        obtain ⟨o, hcla, ho⟩ := classify_eq hd (v := .float deviation) rfl
        have hdef : ¬ IsUndefined d t k rs := fun h => nomatch hquo.symm.trans h.quotient
        have hrep : ∀ severity, o = some severity ↔ IsReported d t k rs severity := by
          intro severity
          rw [ho]
          refine ⟨fun h => ⟨_, hdev, h⟩, ?_⟩
          rintro ⟨deviation', hdev', hrea⟩
          cases hquo.symm.trans hdev'.quotient
          exact hrea
        simp only [Bool.false_eq_true, if_false, hsub', hdiv', hcla]
        cases o with
        | none => exact .inr ⟨none, rfl, hdef, fun _ ha => (nomatch ha), hrep⟩
        | some severity =>
          obtain ⟨expected, hexp⟩ := exists_round_float average 2
          obtain ⟨actual, hact⟩ := exists_round_costOn rs t 2
          obtain ⟨part, hpart⟩ := exists_round_float deviation 4
          have hexp' : Arithmetic.round (Value.float average) 2 = .ok expected := hexp
          have hact' : Arithmetic.round (costOn rs t) 2 = .ok actual := hact
          have hpart' : Arithmetic.round (Value.float deviation) 4 = .ok part := hpart
          simp only [hexp', hact', hpart']
          refine .inr ⟨_, rfl, hdef, fun a ha => ?_, hrep⟩
          cases ha
          exact ⟨rfl, rfl⟩
      · have hdiv' : Arithmetic.div (Value.float difference) (Value.float average) =
            .error (.divisionByZero true) := hdiv
        rw [hdiv] at hdev
        simp only [Bool.false_eq_true, if_false, hsub', hdiv']
        exact .inl ⟨rfl, hdev⟩
  · rw [hsame] at hmean
    rw [hmean]
    refine .inl ⟨rfl, hcos, hkno, fun average h => ?_, by rw [hmean]; rfl⟩
    cases hmean.symm.trans h

lemma assess_daySums (hd : IsNumeric d) (hloo : d.lookback.int? = some n) (ht : t.ordinal ≤ maxOrdinal)
    (hfir : t.before n = .ok first) (rs : List Expense) (s : String) :
    Assessed d t n.toNat rs s (d.assess (Value.date t) (Value.text s) (daySums rs)) := by
  have hamo : (Entries.get? (daySums rs) (Value.date t)).getD Arithmetic.zero = costOn rs t := by
    rw [get?_daySums, costOn]
    split <;> rfl
  have hbef := lookbackAmounts_eq hloo ht hfir rs
  obtain ⟨low, hlow⟩ := exists_lt (isNumber_costOn rs t) hd.minimum
  have hlow' : Arithmetic.lt (costOn rs t) d.minimum = .ok low := hlow
  unfold Detector.assess
  dsimp only
  rw [hamo, hlow']
  cases low with
  | true =>
    refine assessed_none fun deviation hdev => ?_
    cases hlow.symm.trans hdev.costly
  | false =>
    simp only [bind, Except.bind, hbef, Bool.false_eq_true, if_false, length_map]
    by_cases hlen : (pastSums rs t n.toNat).length < leastHistory
    · rw [if_pos hlen]
      exact assessed_none fun deviation hdev => absurd hdev.known (Nat.not_le.mpr hlen)
    · rw [if_neg hlen]
      have hbou := moved_of_before hfir
      exact weigh_pastSums hd hlow (Nat.not_lt.mp hlen) (by omega) s

structure Found (d : Detector Value) (t : Date) (n : Nat) (rs : List Expense) (services : List String)
    (as : List (Anomaly Value Value Value)) : Prop where
  defined : ∀ s ∈ services, ¬ IsUndefined d t n (ofService rs s)
  day : ∀ a ∈ as, a.day = .date t
  reported : ∀ s severity, (∃ a ∈ as, a.service = .text s ∧ a.severity = severity) ↔
    s ∈ services ∧ IsReported d t n (ofService rs s) severity
  order : (as.map (·.service)).Sublist (services.map .text)

lemma Found.cons {o : Option (Anomaly Value Value Value)} {as : List (Anomaly Value Value Value)}
    {services : List String} (hjud : Judged d t k (ofService rs s) s o) (hfou : Found d t k rs services as) :
    Found d t k rs (s :: services) (o.toList ++ as) where
  defined := forall_mem_cons.mpr ⟨hjud.defined, hfou.defined⟩
  day := by
    intro a ha
    rcases mem_append.mp ha with ha | ha
    · exact (hjud.told a (by simpa using ha)).1
    · exact hfou.day a ha
  reported := by
    intro s' severity
    have hspl : (∃ a ∈ o.toList ++ as, a.service = .text s' ∧ a.severity = severity) ↔
        (∃ a, o = some a ∧ a.service = .text s' ∧ a.severity = severity) ∨
          ∃ a ∈ as, a.service = .text s' ∧ a.severity = severity := by
      simp only [mem_append, Option.mem_toList, or_and_right, exists_or]
    have hhead : (∃ a, o = some a ∧ a.service = .text s' ∧ a.severity = severity) ↔
        s' = s ∧ IsReported d t k (ofService rs s') severity := by
      constructor
      · rintro ⟨a, rfl, hser, rfl⟩
        cases (hjud.told a rfl).2.symm.trans hser
        exact ⟨rfl, (hjud.severity _).mp rfl⟩
      · rintro ⟨rfl, hrep⟩
        obtain ⟨a, ha, hsev⟩ := Option.map_eq_some_iff.mp ((hjud.severity _).mpr hrep)
        exact ⟨a, ha, (hjud.told a ha).2, hsev⟩
    rw [hspl, hhead, hfou.reported, mem_cons, or_and_right]
  order := by
    cases o with
    | none => exact hfou.order.cons _
    | some a =>
      rw [Option.toList_some, singleton_append, map_cons, map_cons, (hjud.told a rfl).2]
      exact hfou.order.cons_cons _

lemma assessAll_tabulate (hd : IsNumeric d) (hloo : d.lookback.int? = some n) (ht : t.ordinal ≤ maxOrdinal)
    (hfir : t.before n = .ok first) (rs : List Expense) (services : List String) :
    (d.assessAll (date t) (tabulate Value.text services fun s => daySums (ofService rs s)) =
        .error (.divisionByZero true) ∧ ∃ s ∈ services, IsUndefined d t n.toNat (ofService rs s)) ∨
      ∃ as, d.assessAll (date t) (tabulate Value.text services fun s => daySums (ofService rs s)) =
        .ok as ∧ Found d t n.toNat rs services as := by
  induction services with
  | nil => exact .inr ⟨[], rfl, by simp, by simp, by simp, .slnil⟩
  | cons s services ih =>
    have hcons : d.assessAll (date t) (tabulate Value.text (s :: services) fun s =>
        daySums (ofService rs s)) = (do
      let a ← d.assess (date t) (Value.text s) (daySums (ofService rs s))
      let as ← d.assessAll (date t) (tabulate Value.text services fun s => daySums (ofService rs s))
      return a.toList ++ as) := rfl
    rw [hcons]
    rcases assess_daySums hd hloo ht hfir (ofService rs s) s with ⟨hfau, hund⟩ | ⟨o, ho, hjud⟩
    · rw [hfau]
      exact .inl ⟨rfl, s, mem_cons_self, hund⟩
    rcases ih with ⟨hfau, s', hs', hund⟩ | ⟨as, has, hfou⟩
    · rw [ho, hfau]
      exact .inl ⟨rfl, s', mem_cons_of_mem s hs', hund⟩
    · rw [ho, has]
      exact .inr ⟨o.toList ++ as, rfl, hfou.cons hjud⟩

lemma ofSeverity_ranked (severity : Severity) (as : List (Anomaly Value Value Value)) :
    ofSeverity severity (ranked as) = ofSeverity severity as := by
  have hfil : ∀ other, ofSeverity severity (ofSeverity other as) =
      if other = severity then ofSeverity severity as else [] := by
    intro other
    unfold ofSeverity
    rw [filter_filter]
    split
    · next h => simp [h]
    · next h =>
        refine filter_eq_nil_iff.mpr fun a _ => ?_
        grind
  have happ : ∀ bs cs : List (Anomaly Value Value Value), ofSeverity severity (bs ++ cs) =
      ofSeverity severity bs ++ ofSeverity severity cs := fun bs cs => filter_append bs cs
  rw [ranked, happ, happ, hfil, hfil, hfil]
  cases severity <;> simp

lemma perm_ranked (as : List (Anomaly Value Value Value)) : (ranked as).Perm as := by
  induction as with
  | nil => exact .nil
  | cons a as ih =>
    have hcons : ∀ severity, ofSeverity severity (a :: as) =
        if a.severity = severity then a :: ofSeverity severity as
        else ofSeverity severity as := by
      intro severity
      simp only [ofSeverity, filter_cons, beq_iff_eq]
    refine List.Perm.trans ?_ (ih.cons a)
    unfold ranked
    rw [hcons, hcons, hcons]
    cases a.severity with
    | critical => simp
    | warning => simp [perm_middle]
    | info => simp only [reduceCtorEq, if_false, if_true, perm_middle]

variable {target : Value} {today : Date} {rows : List Value}

lemma ofNumber_of_int? (h : v.int? = some n) : ofNumber v = ofDays n := by
  cases v with
  | int | bool =>
    cases h
    rfl
  | null | float | text | list | object | date | timestamp => cases h

lemma detectRows_eq (hrows : List.Forall₂ Tells rows rs) (hloo : d.lookback.int? = some n)
    (htar : target.orYesterday today = .ok (.date t)) : d.detectRows today target (.list rows) =
      (t.before n).bind fun _ => d.inHistory (.date t) (historyOf rs) := by
  have hhis := foldlM_add_eq hrows []
  have hite : (Value.list rows).items = .ok rows := rfl
  unfold detectRows detectBy
  rw [htar, ofNumber_of_int? hloo, hite, before]
  cases hdays : ofDays n with
  | error err => rfl
  | ok span =>
    have hbef : (date t).dayBefore span = (t.moved (-span.days)).map .date := rfl
    have hbef' : Days.before (date t) span = (t.moved (-span.days)).map .date := rfl
    simp only [bind, Except.bind, hbef, hbef']
    cases t.moved (-span.days) with
    | error err => rfl
    | ok first => exact congrArg (fun h => Except.bind h (d.inHistory (.date t))) hhis

lemma mem_services_of_deviates {deviation : Result Value} (h : Deviates d t k (ofService rs s) deviation) :
    s ∈ servicesOf rs := by
  by_contra hs
  have hnone : pastSums (ofService rs s) t k = [] := by
    rw [ofService_eq_nil hs, pastSums, filter_eq_nil_iff.mpr fun e _ => by simp [daysOf]]
    rfl
  have hkno := h.known
  rw [hnone] at hkno
  exact absurd hkno (by decide)

structure Reports (d : Detector Value) (t : Date) (n : Nat) (rs : List Expense)
    (as : List (Anomaly Value Value Value)) : Prop where
  defined : ∀ s, ¬ IsUndefined d t n (ofService rs s)
  day : ∀ a ∈ as, a.day = .date t
  reported : ∀ s severity, (∃ a ∈ as, a.service = .text s ∧ a.severity = severity) ↔
    IsReported d t n (ofService rs s) severity
  once : (as.map (·.service)).Nodup
  ranked : as = ofSeverity .critical as ++ ofSeverity .warning as ++ ofSeverity .info as
  order : ∀ severity, ((ofSeverity severity as).map (·.service)).Sublist ((servicesOf rs).map .text)

lemma Found.reports {as : List (Anomaly Value Value Value)} (h : Found d t k rs (servicesOf rs) as) :
    Reports d t k rs (Detector.ranked as) where
  defined := fun s hs => h.defined s (mem_services_of_deviates hs) hs
  day := fun a ha => h.day a ((perm_ranked as).mem_iff.mp ha)
  reported := by
    intro s severity
    simp only [(perm_ranked as).mem_iff]
    rw [h.reported]
    refine ⟨And.right, fun hrep => ⟨?_, hrep⟩⟩
    obtain ⟨_, hdev, -⟩ := hrep
    exact mem_services_of_deviates hdev
  once := by
    have hser : ((servicesOf rs).map Value.text).Nodup :=
      Pairwise.map Value.text (fun a b hne heq => hne (by cases heq; rfl)) (nodup_eraseDups _)
    exact ((perm_ranked as).map _).nodup_iff.mpr (h.order.nodup hser)
  ranked := by
    rw [ofSeverity_ranked, ofSeverity_ranked, ofSeverity_ranked]
    rfl
  order := by
    intro severity
    rw [ofSeverity_ranked]
    exact (filter_sublist.map _).trans h.order

/-- A detector finds the anomalies of a report, provided the first day of its window is in the calendar and its
arithmetic does not divide by zero. -/
theorem detectRows_reports (hrows : List.Forall₂ Tells rows rs) (hd : IsNumeric d)
    (hlookback : d.lookback.int? = some n) (htarget : target.orYesterday today = .ok (.date t)) (ht : t.ordinal ≤ Date.maxOrdinal) :
    (∀ fault, t.before n = .error fault → d.detectRows today target (.list rows) = .error fault) ∧
      ∀ first, t.before n = .ok first →
        (d.detectRows today target (.list rows) = .error (.divisionByZero true) ∧
          ∃ s, IsUndefined d t n.toNat (ofService rs s)) ∨
        ∃ as, d.detectRows today target (.list rows) = .ok as ∧ Reports d t n.toNat rs as := by
  rw [detectRows_eq hrows hlookback htarget]
  refine ⟨fun fault hfau => by rw [hfau]; rfl, fun first hfir => ?_⟩
  have hhis : d.inHistory (Value.date t) (historyOf rs) = (d.assessAll (Value.date t)
    (Entries.tabulate Value.text (servicesOf rs) fun s => daySums (ofService rs s))).map Detector.ranked := rfl
  rw [hfir]
  have hbind : (Except.ok first : Result Date).bind (fun _ => d.inHistory (Value.date t) (historyOf rs)) =
    d.inHistory (.date t) (historyOf rs) := rfl
  rw [hbind, hhis]
  rcases assessAll_tabulate hd hlookback ht hfir rs (servicesOf rs) with ⟨hfau, s, -, hs⟩ | ⟨as, has, hfou⟩
  · rw [hfau]
    exact .inl ⟨rfl, s, hs⟩
  · rw [has]
    exact .inr ⟨_, rfl, hfou.reports⟩

section Day

variable {t rows : Value} {as : List (Anomaly Value Value Value)}

lemma day_of_weigh {service : Value} {before : List Value} {a : Anomaly Value Value Value}
    (h : d.weigh t service amount before = .ok (some a)) : a.day = t := by
  obtain ⟨average, -, h⟩ := of_bind_ok h
  obtain ⟨small, -, h⟩ := of_bind_ok h
  cases small with
  | true => cases h
  | false =>
    obtain ⟨difference, -, h⟩ := of_bind_ok h
    obtain ⟨deviation, -, h⟩ := of_bind_ok h
    obtain ⟨severity?, -, h⟩ := of_bind_ok h
    cases severity? with
    | none => cases h
    | some severity =>
      obtain ⟨_, -, h⟩ := of_bind_ok h
      obtain ⟨_, -, h⟩ := of_bind_ok h
      obtain ⟨_, -, h⟩ := of_bind_ok h
      cases h
      rfl

lemma day_of_assessAll {hs : History Value Value Value} (h : d.assessAll t hs = .ok as) : ∀ a ∈ as, a.day = t := by
  induction hs generalizing as with
  | nil =>
    cases h
    exact fun _ ha => absurd ha not_mem_nil
  | cons entry hs ih =>
    obtain ⟨a?, hass, h⟩ := of_bind_ok h
    obtain ⟨rest, hrest, h⟩ := of_bind_ok h
    cases h
    intro a ha
    rcases mem_append.mp ha with ha | ha
    · obtain rfl : a? = some a := by simpa using ha
      obtain ⟨low, -, hass⟩ := of_bind_ok hass
      cases low with
      | true => cases hass
      | false =>
        obtain ⟨before, -, hass⟩ := of_bind_ok hass
        split at hass
        · cases hass
        · exact day_of_weigh hass
    · exact ih hrest a ha

lemma day_of_detectRows (h : d.detectRows today target rows = .ok as) :
    ∃ t, target.orYesterday today = .ok t ∧ ∀ a ∈ as, a.day = t := by
  obtain ⟨t, ht, h⟩ := of_bind_ok h
  obtain ⟨_, -, h⟩ := of_bind_ok h
  obtain ⟨_, -, h⟩ := of_bind_ok h
  obtain ⟨_, -, h⟩ := of_bind_ok h
  obtain ⟨_, -, h⟩ := of_bind_ok h
  obtain ⟨_, -, h⟩ := of_bind_ok h
  obtain ⟨hs, -, h⟩ := of_bind_ok h
  refine ⟨t, ht, ?_⟩
  cases hall : d.assessAll t hs with
  | error e => 
    rw [inHistory, hall] at h
    cases h
  | ok bs =>
    rw [inHistory, hall] at h
    cases h
    exact fun a ha => day_of_assessAll hall a ((perm_ranked bs).mem_iff.mp ha)

end Day

def rowOf (r : Expense) : Value :=
  .object [("date", .date r.day), ("service", .text r.service), ("amount", .float r.amount)]

lemma tells_rows (rs : List Expense) : List.Forall₂ Tells (rs.map rowOf) rs := by
  induction rs with
  | nil => exact .nil
  | cons r rs ih => exact .cons ⟨.float r.amount, rfl, rfl, rfl⟩ ih

def spike : List Expense :=
  [⟨⟨2026, 2, 14⟩, "EC2", 4⟩, ⟨⟨2026, 2, 12⟩, "S3", 3⟩, ⟨⟨2026, 2, 14⟩, "EC2", 6⟩, ⟨⟨2026, 2, 8⟩, "EC2", 10⟩,
    ⟨⟨2026, 2, 10⟩, "EC2", 10⟩, ⟨⟨2026, 2, 13⟩, "S3", 3⟩, ⟨⟨2026, 2, 14⟩, "S3", 3⟩, ⟨⟨2026, 2, 15⟩, "EC2", 25⟩,
    ⟨⟨2026, 2, 15⟩, "S3", 4⟩]

theorem detectRows_reports_spike :
    (Detector.default.detectRows ⟨2026, 2, 16⟩ .null (.list (spike.map rowOf)) = .error (.divisionByZero true) ∧
        ∃ s, IsUndefined Detector.default ⟨2026, 2, 15⟩ 7 (ofService spike s)) ∨
      ∃ as, Detector.default.detectRows ⟨2026, 2, 16⟩ .null (.list (spike.map rowOf)) = .ok as ∧
        Reports Detector.default ⟨2026, 2, 15⟩ 7 spike as :=
  (detectRows_reports (n := 7) (tells_rows spike) ⟨rfl, rfl, rfl, rfl⟩ rfl rfl (by decide)).2 ⟨2026, 2, 8⟩ rfl

/-- A report without expenses has no anomalies to find, but near the start of the calendar it is not even looked at. -/
theorem detectRows_first_days :
    Detector.default.detectRows ⟨2026, 2, 16⟩ (.date ⟨1, 1, 3⟩) (.list []) = .error .dateOutOfRange ∧
      Reports Detector.default ⟨1, 1, 3⟩ 7 [] [] := by
  have hnone : ∀ s deviation, ¬ Deviates Detector.default ⟨1, 1, 3⟩ 7 (ofService [] s) deviation := by
    intro s deviation h
    exact not_mem_nil (mem_services_of_deviates h)
  refine ⟨rfl, fun s => hnone s _, by simp, fun s severity => ⟨by simp, ?_⟩, nodup_nil, rfl, fun _ => .slnil⟩
  rintro ⟨deviation, hdev, -⟩
  exact absurd hdev (hnone s _)

end CloudSpend.Cost
