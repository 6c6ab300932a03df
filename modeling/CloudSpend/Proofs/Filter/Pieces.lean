import CloudSpend.Filter.Sql
import CloudSpend.Proofs.Data.Entries
import Mathlib.Data.List.TakeWhile
import Mathlib.Tactic.Common

/-! # Conditions in pieces -/

namespace CloudSpend.Filter

inductive Fragment where
  | always
  | compare (column op : String) (slot : Nat)
  | member (column op : String) (slots : List Nat)
  | join (op : Connective) (left right : Fragment)
  | negate (f : Fragment)
  deriving Repr, DecidableEq

def Fragment.slots : Fragment → List Nat
  | .always => []
  | .compare _ _ s => [s]
  | .member _ _ ss => ss
  | .join _ l r => l.slots ++ r.slots
  | .negate f => f.slots

def Fragment.text (slot : Nat → String) : Fragment → String
  | .always => "1=1"
  | .compare column op s => column ++ " " ++ op ++ " " ++ slot s
  | .member column op ss => column ++ " " ++ op ++ " (" ++ ", ".intercalate (ss.map slot) ++ ")"
  | .join op l r => "(" ++ l.text slot ++ " " ++ op.text ++ " " ++ r.text slot ++ ")"
  | .negate f => "NOT (" ++ f.text slot ++ ")"

def Expr.fragment (column : String → String) : Expr → (first : Nat) → Fragment
  | .condition f (.member negated vs), first =>
    .member (column f) (Test.member negated vs).operator (List.range' first vs.length)
  | .condition f t, first => .compare (column f) t.operator first
  | .logical op l r, first =>
    .join op (l.fragment column first) (r.fragment column (first + l.literals.length))
  | .negation e, first => .negate (e.fragment column first)

def Dialect.column : Dialect → String → String
  | .stored table => storedColumn table
  | .records => recordExpression

def Dialect.slot : Dialect → Nat → String
  | .stored _, n => ":p" ++ toString n
  | .records, n => "$" ++ toString (n + 1)

namespace Expr
lemma storedSql_eq (table : String) (e : Expr) (params : List Value) :
    e.storedSql table params =
      ((e.fragment (storedColumn table) params.length).text (Dialect.stored table).slot,
        params ++ e.literals.map Literal.toValue) := by
  induction e generalizing params with
  | condition f t =>
    cases t with
    | compare op v =>
      simp [storedSql, fragment, Fragment.text, Test.operator, literals, Test.literals,
        Dialect.slot, ← String.toList_inj]
    | like negated v =>
      cases negated <;>
        simp [storedSql, fragment, Fragment.text, Test.operator, literals, Test.literals,
          Dialect.slot, ← String.toList_inj]
    | member negated vs =>
      cases negated <;>
        simp [storedSql, fragment, Fragment.text, Test.operator, literals, Test.literals,
          Dialect.slot, String.append_assoc, List.range'_eq_map_range, Function.comp_def]
  | logical op l r ihl ihr =>
    simp [storedSql, ihl, ihr, fragment, Fragment.text, literals]
  | negation e ih => simp [storedSql, ih, fragment, Fragment.text, literals]

lemma recordSql_eq (e : Expr) (params : List Value) :
    e.recordSql params =
      ((e.fragment recordExpression params.length).text Dialect.records.slot,
        params ++ e.literals.map Literal.toValue) := by
  induction e generalizing params with
  | condition f t =>
    cases t with
    | compare op v =>
      simp [recordSql, fragment, Fragment.text, Test.operator, literals, Test.literals,
        Dialect.slot, ← String.toList_inj]
    | like negated v =>
      cases negated <;>
        simp [recordSql, fragment, Fragment.text, Test.operator, literals, Test.literals,
          Dialect.slot, ← String.toList_inj]
    | member negated vs =>
      cases negated <;>
        simp [recordSql, fragment, Fragment.text, Test.operator, literals, Test.literals,
          Dialect.slot, String.append_assoc, List.range'_eq_map_range, Function.comp_def]
  | logical op l r ihl ihr =>
    simp [recordSql, ihl, ihr, fragment, Fragment.text, literals]
  | negation e ih => simp [recordSql, ih, fragment, Fragment.text, literals]

lemma sql_eq (d : Dialect) (e : Expr) (params : List Value) :
    e.sql d params = ((e.fragment d.column params.length).text d.slot,
      params ++ e.literals.map Literal.toValue) := by
  cases d with
  | stored table => exact e.storedSql_eq table params
  | records => exact e.recordSql_eq params

end Expr

inductive Piece where
  | written (s : String)
  | named (column : String)
  | slot (n : Nat)

def Piece.text (slot : Nat → String) : Piece → String
  | .written s => s
  | .named s => s
  | .slot n => slot n

def textOf (slot : Nat → String) (ps : List Piece) : String := String.join (ps.map (Piece.text slot))

def slotsOf : List Piece → List Nat
  | [] => []
  | .written _ :: ps => slotsOf ps
  | .named _ :: ps => slotsOf ps
  | .slot n :: ps => n :: slotsOf ps

variable (slot : Nat → String)

@[simp] lemma textOf_nil : textOf slot [] = "" := rfl

@[simp] lemma textOf_cons (p : Piece) (ps : List Piece) :
    textOf slot (p :: ps) = p.text slot ++ textOf slot ps := by
  simp [textOf]

@[simp] lemma textOf_append (ps qs : List Piece) :
    textOf slot (ps ++ qs) = textOf slot ps ++ textOf slot qs := by
  simp [textOf]

@[simp] lemma slotsOf_append (ps qs : List Piece) : slotsOf (ps ++ qs) = slotsOf ps ++ slotsOf qs := by
  induction ps with
  | nil => rfl
  | cons p ps ih => cases p <;> simp [slotsOf, ih]

def slotList : List Nat → List Piece
  | [] => []
  | [n] => [.slot n]
  | n :: ns => .slot n :: .written ", " :: slotList ns

def Fragment.pieces : Fragment → List Piece
  | .always => [.written "1=1"]
  | .compare column op n => [.named column, .written (" " ++ op ++ " "), .slot n]
  | .member column op ns =>
    .named column :: .written (" " ++ op ++ " (") :: slotList ns ++ [.written ")"]
  | .join op l r =>
    .written "(" :: l.pieces ++ .written (" " ++ op.text ++ " ") :: r.pieces ++ [.written ")"]
  | .negate f => .written "NOT (" :: f.pieces ++ [.written ")"]

lemma textOf_slotList (ns : List Nat) :
    textOf slot (slotList ns) = ", ".intercalate (ns.map slot) := by
  induction ns using slotList.induct with
  | case1 => rfl
  | case2 n => simp [slotList, Piece.text]
  | case3 n ns hne ih =>
    obtain ⟨m, ms, rfl⟩ := List.exists_cons_of_ne_nil hne
    rw [slotList, textOf_cons, textOf_cons, ih]
    · simp [Piece.text, String.append_assoc]
    · exact hne

lemma Fragment.textOf_pieces (f : Fragment) : textOf slot f.pieces = f.text slot := by
  induction f with
  | always => rfl
  | compare column op n => simp [pieces, text, Piece.text, String.append_assoc]
  | member column op ns => simp [pieces, text, Piece.text, textOf_slotList, String.append_assoc]
  | join op l r ihl ihr => simp [pieces, text, ihl, ihr, Piece.text, String.append_assoc]
  | negate f ih => simp [pieces, text, ih, Piece.text, String.append_assoc]

lemma slotsOf_slotList (ns : List Nat) : slotsOf (slotList ns) = ns := by
  induction ns using slotList.induct with
  | case1 => rfl
  | case2 n => rfl
  | case3 n ns hne ih =>
    rw [slotList, slotsOf, slotsOf, ih]
    exact hne

lemma Fragment.slotsOf_pieces (f : Fragment) : slotsOf f.pieces = f.slots := by
  induction f with
  | always => rfl
  | compare column op n => rfl
  | member column op ns => simp [pieces, slots, slotsOf, slotsOf_slotList]
  | join op l r ihl ihr => simp [pieces, slots, slotsOf, ihl, ihr]
  | negate f ih => simp [pieces, slots, slotsOf, ih]

lemma Expr.slots_fragment (column : String → String) (e : Expr) (first : Nat) :
    (e.fragment column first).slots = List.range' first e.literals.length := by
  induction e generalizing first with
  | condition f t =>
    cases t with
    | compare op v => rfl
    | like negated v => rfl
    | member negated vs => rfl
  | logical op l r ihl ihr =>
    rw [fragment, Fragment.slots, ihl, ihr, literals, List.length_append, List.range'_append_1]
  | negation e ih => exact ih first

lemma Expr.text_fragment_ne (column : String → String) (e : Expr) (first : Nat) :
    (e.fragment column first).text slot ≠ "1=1" := by
  have hbla : ' ' ∈ ((e.fragment column first).text slot).toList := by
    cases e with
    | condition f t => cases t <;> simp [fragment, Fragment.text]
    | logical op l r => simp [fragment, Fragment.text]
    | negation e => simp [fragment, Fragment.text]
  intro htext
  rw [htext] at hbla
  exact absurd hbla (by decide)

namespace Query

def searched (q : Query) : Option Expr := if q.isValid then q.expression else none

def values (q : Query) : List Value := q.searched.elim [] fun e => e.literals.map Literal.toValue

def fragment (d : Dialect) (q : Query) : Fragment :=
  q.searched.elim .always fun e => e.fragment d.column 0

lemma condition_eq_elim (d : Dialect) (q : Query) (limit : Nat) :
    q.condition d limit = q.searched.elim (.ok ("1=1", [])) fun e => e.compile d [] limit := by
  unfold condition searched
  cases q.isValid <;> cases q.expression <;> rfl

variable {q : Query} {limit : Nat}

lemma condition_eq_ok (d : Dialect) (h : ∀ e ∈ q.expression, e.depth ≤ limit) :
    q.condition d limit = .ok ((q.fragment d).text d.slot, q.values) := by
  rw [condition_eq_elim]
  cases hval : q.isValid with
  | false => simp [fragment, values, searched, hval, Fragment.text]
  | true =>
    cases he : q.expression with
    | none => simp [fragment, values, searched, hval, he, Fragment.text]
    | some e =>
      have hdep : ¬ limit < e.depth := Nat.not_lt.mpr (h e he)
      simp [fragment, values, searched, hval, he, Expr.compile, hdep, Expr.sql_eq]

lemma of_condition_eq_ok {d : Dialect} {sql : String} {params : List Value}
    (h : q.condition d limit = .ok (sql, params)) :
    sql = textOf d.slot (q.fragment d).pieces ∧ params = q.values := by
  rw [condition_eq_elim] at h
  rw [Fragment.textOf_pieces]
  unfold fragment values
  cases hsea : q.searched with
  | none =>
    rw [hsea] at h
    cases h
    exact ⟨rfl, rfl⟩
  | some e =>
    rw [hsea, Option.elim_some, Expr.compile, Expr.sql_eq] at h
    split at h
    · cases h
    · cases h
      exact ⟨rfl, rfl⟩

end Query

section

open CloudSpend.Text

def isNamePart (c : Char) : Bool := isWordChar c || c == '_'

def IsDotted (f : String) : Prop := ∀ c ∈ f.toList, isNamePart c = true ∨ c = '.'

instance : DecidablePred IsDotted := fun f => List.decidableBAll _ f.toList

variable {f : String} {c : Char}

lemma mem_of_mem_lastPart (h : c ∈ (lastPart f).toList) : c ∈ f.toList ∧ c ≠ '.' := by
  simp only [lastPart, String.toList_ofList, List.mem_reverse] at h
  refine ⟨?_, by simpa using List.mem_takeWhile_imp h⟩
  exact List.mem_reverse.mp ((List.takeWhile_prefix _).subset h)

lemma isNamePart_of_mem_lastPart (hf : IsDotted f) (h : c ∈ (lastPart f).toList) :
    isNamePart c = true := by
  obtain ⟨hmem, hpoi⟩ := mem_of_mem_lastPart h
  exact (hf c hmem).resolve_right hpoi

lemma mem_of_occursIn {part cs : List Char} (h : occursIn part cs = true) (hc : c ∈ part) :
    c ∈ cs := by
  induction cs with
  | nil =>
    rw [occursIn, List.isEmpty_iff] at h
    rw [h] at hc
    exact hc
  | cons d cs ih =>
    rw [occursIn, Bool.or_eq_true, List.isPrefixOf_iff_prefix] at h
    grind

lemma recordExpression_of_isDotted (hf : IsDotted f) : recordExpression f = recordColumn f := by
  unfold recordExpression
  rw [if_neg]
  intro htag
  have hbra : '[' ∈ f.toList := mem_of_occursIn htag (by decide)
  exact absurd (hf '[' hbra) (by decide)

theorem isNamePart_of_mem_recordColumn (hf : IsDotted f) (h : c ∈ (recordColumn f).toList) :
    isNamePart c = true := by
  have hcol : ∀ p ∈ recordColumns, p.2.toList.all isNamePart = true := by decide
  unfold recordColumn at h
  cases hloo : recordColumns.lookup f with
  | some column =>
    rw [hloo] at h
    exact List.all_eq_true.mp (hcol (f, column) (Entries.mem_of_get? hloo)) c h
  | none =>
    rw [hloo] at h
    exact isNamePart_of_mem_lastPart hf h

lemma storedColumn_eq (table f : String) : storedColumn table f = table ++ "." ++ lastPart f := by
  have hfie : ∀ name ∈ storedFields, lastPart ("costs." ++ name) = name := by decide
  unfold storedColumn
  grind

end

end CloudSpend.Filter
