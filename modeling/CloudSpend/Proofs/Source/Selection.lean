import CloudSpend.Proofs.Source.StoredOnce
import Mathlib.Data.List.Permutation

/-! # Rows chosen by their day -/

namespace CloudSpend.Source.BlobStorage

open List Run

def Carries (row : Value) (d : Date) : Prop :=
  d.IsDay ∧ ∃ cells tail, row = .object cells ∧
    (Entries.get? cells "Date").or (Entries.get? cells "UsageDateTime") = some (.text (d.text ++ tail))

lemma Carries.dayCell_eq {row : Value} {d : Date} (h : Carries row d) : dayCell row = .ok (.text d.text) := by
  obtain ⟨hd, cells, tail, rfl, hcell⟩ := h
  have hlen : d.text.toList.length = 10 := by
    simp [d.toList_text, Date.length_year hd, Date.length_month hd, Date.length_day hd]
  have htake : (d.text ++ tail).toList.take 10 = d.text.toList := by
    rw [String.toList_append, ← hlen, take_left]
  have hread : (Entries.get? cells "Date").getD ((Entries.get? cells "UsageDateTime").getD "") =
      .text (d.text ++ tail) := by
    cases hdate : Entries.get? cells "Date" with
    | none =>
      rw [hdate] at hcell
      simp [show Entries.get? cells "UsageDateTime" = _ from hcell]
    | some v => simpa [hdate] using hcell
  show ((Entries.get? cells "Date").getD ((Entries.get? cells "UsageDateTime").getD "")).take 10 = _
  rw [hread, Value.take, htake, String.ofList_toList]

lemma pairwise_exportFiles (o : Outside) (names : Value) : (exportFiles o names).Pairwise (· ≤ ·) := by
  have hle (a b : String) : (!decide (b < a)) = true ↔ a ≤ b := by
    rw [Bool.not_eq_true', decide_eq_false_iff_not]
    rfl
  have htra : ∀ a b c : String, (!decide (b < a)) = true → (!decide (c < b)) = true → (!decide (c < a)) = true :=
    fun a b c hab hbc => (hle a c).mpr (String.le_trans ((hle a b).mp hab) ((hle b c).mp hbc))
  have htot : ∀ a b : String, (!decide (b < a) || !decide (a < b)) = true := fun a b =>
    Bool.or_eq_true_iff.mpr ((String.le_total a b).imp (hle a b).mpr (hle b a).mpr)
  exact (pairwise_mergeSort htra htot _).imp fun {a b} h => (hle a b).mp h

/-- An export whose rows carry days is taken over, for a span of days, with the rows whose day lies in the span: these
are stored, in the order of the names of the files and then of the rows. -/
theorem ingest_keeps_span (b : BlobStorage) (W : Window) (names : Value) (day : Value → Date) (w : World)
    (hrows : ∀ row ∈ exportRows w.outside names, Carries row (day row)) :
    (exportFiles w.outside names).Pairwise (· ≤ ·) ∧
    ∃ w₁, settled w₁ = settled w ∧
      exec (b.ingest (.text W.start.text) (.text W.stop.text) names) w = exec (do
        let (count, path) ← keep .azure b.directory (.ok ("azure_" ++ W.name))
          ((exportRows w.outside names).filter fun row => W.contains (day row))
        return .object [("rows_ingested", count), ("files_processed", (exportFiles w.outside names).length),
          ("output_path", Value.ofText? path)]) w₁ := by
  obtain ⟨w₁, hw₁, hing⟩ := exec_ingest (b := b) (W := W) names
  refine ⟨pairwise_exportFiles _ _, w₁, hw₁, hing.trans ?_⟩
  have hfile : ∀ f ∈ exportFiles w.outside names, ∃ rows, (fileRows w.outside f).filterM
      (isBetween (.text W.start.text) (.text W.stop.text)) = .ok rows := by
    intro f hf
    have hbet : ∀ row ∈ fileRows w.outside f,
        isBetween (.text W.start.text) (.text W.stop.text) row = .ok (W.contains (day row)) := by
      intro row hrow
      have hcar := hrows row (mem_flatMap.mpr ⟨f, hf, hrow⟩)
      exact isBetween_eq_contains W hcar.1 hcar.dayCell_eq
    exact ⟨_, filterM_eq_ok hbet⟩
  obtain ⟨parts, hpar⟩ : ∃ parts, chosen W w.outside names = .ok parts := Billing.exists_mapM_eq_ok hfile
  have hflat : parts.flatten = (exportRows w.outside names).filter fun row => W.contains (day row) := by
    rw [flatten_of_chosen hpar]
    exact filter_congr fun row hrow => holds_eq_contains W (hrows row hrow).1 (hrows row hrow).dayCell_eq
  rw [hpar, ← hflat]
  rfl

def lateRow : Value := .object [("UsageDateTime", "2026-01-31T23:00"), ("Cost", "5")]

def nextRow : Value := .object [("Date", "2026-02-01T00:00"), ("Cost", "3")]

def stampedCosts : World :=
  worldWith [("c.csv", none), ("b.csv", some "Date,Cost\n2026-02-01T00:00,3\n"),
    ("a.csv", some "UsageDateTime,Cost\n2026-01-31T23:00,5\n")]

def stampedDay (row : Value) : Date :=
  match row.getD "Date" .null with
  | .ok (.text _) => ⟨2026, 2, 1⟩
  | _ => ⟨2026, 1, 31⟩

lemma exportFiles_stampedCosts : exportFiles stampedCosts.outside "" = ["a.csv", "b.csv", "c.csv"] := by cbv

lemma exportRows_stampedCosts : exportRows stampedCosts.outside "" = [lateRow, nextRow] := by
  rw [exportRows, exportFiles_stampedCosts]
  rfl

/-- Of a time in the evening of the last day and one of the day after, in two files and beside one that cannot be read,
the first is in January. -/
theorem ingest_keeps_january_evening :
    (exportRows stampedCosts.outside "" = [lateRow, nextRow] ∧ Carries lateRow ⟨2026, 1, 31⟩ ∧
      Carries nextRow ⟨2026, 2, 1⟩) ∧
    ∃ w₁, exec (ingest ⟨"", "", "", "acc", "exports", .ofText "out"⟩ "2026-01-01" "2026-02-01" "") stampedCosts =
      exec (do
        let (count, path) ← keep .azure (.ofText "out") (.ok "azure_20260101_20260201") [lateRow]
        return .object [("rows_ingested", count), ("files_processed", (3 : Nat)),
          ("output_path", Value.ofText? path)]) w₁ := by
  have hlate : Carries lateRow ⟨2026, 1, 31⟩ := ⟨by decide, _, "T23:00", rfl, rfl⟩
  have hnext : Carries nextRow ⟨2026, 2, 1⟩ := ⟨by decide, _, "T00:00", rfl, rfl⟩
  obtain ⟨-, w₁, -, hing⟩ := ingest_keeps_span ⟨"", "", "", "acc", "exports", .ofText "out"⟩ january "" stampedDay
    stampedCosts (by
      rw [exportRows_stampedCosts]
      rintro row (_ | ⟨_, _ | ⟨_, hrow⟩⟩)
      · exact hlate
      · exact hnext
      · cases hrow)
  rw [exportRows_stampedCosts, exportFiles_stampedCosts] at hing
  exact ⟨⟨exportRows_stampedCosts, hlate, hnext⟩, w₁, hing⟩

end CloudSpend.Source.BlobStorage
