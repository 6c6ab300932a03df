import CloudSpend.Cluster.Store
import CloudSpend.Proofs.Billing.Records
import CloudSpend.Proofs.Numeral.Rounding

/-! # Reports of clusters over runs -/

namespace CloudSpend.Cluster

open List Entries

structure Push where
  cluster : String
  report : Row
  time : Timestamp

def afterPushes (ps : List Push) : Store := ps.foldl (fun s p => s.push p.cluster p.report p.time) []

def reporters (ps : List Push) : List String := (ps.map Push.cluster).eraseDups

def last? (ps : List Push) (cluster : String) : Option Push := ps.reverse.find? fun p => p.cluster == cluster

def keptOf (ps : List Push) (cluster : String) : Row :=
  match last? ps cluster with
  | some p => stamp cluster p.report p.time
  | none => []

def SumsUp (ps : List Push) (cluster : String) : Prop :=
  ∃ entry, (afterPushes (last? ps cluster).toList).summaries = .ok [entry]

variable {ps : List Push} {p : Push} {cs : List String} {c : String}

lemma mem_reporters : c ∈ reporters ps ↔ ∃ p ∈ ps, p.cluster = c := by simp [reporters]

lemma reporters_append (ps : List Push) (p : Push) :
    reporters (ps ++ [p]) = if p.cluster ∈ reporters ps then reporters ps else reporters ps ++ [p.cluster] := by
  unfold reporters
  rw [map_append, map_singleton, eraseDups_concat]

lemma nodup_reporters (ps : List Push) : (reporters ps).Nodup := nodup_eraseDups _

lemma last?_append (ps : List Push) (p : Push) (c : String) :
    last? (ps ++ [p]) c = if p.cluster = c then some p else last? ps c := by
  by_cases h : p.cluster = c <;> simp [last?, h]

lemma exists_last? (h : c ∈ reporters ps) : ∃ p, last? ps c = some p := by
  obtain ⟨p, hp, hc⟩ := mem_reporters.mp h
  exact Option.isSome_iff_exists.mp (find?_isSome.mpr ⟨p, mem_reverse.mpr hp, by simp [hc]⟩)

def named (cs : List String) (row : String → Row) : Store := cs.map fun c => (.text c, row c)

lemma get?_named (cs : List String) (row : String → Row) (c : String) :
    get? (named cs row) (.text c) = if c ∈ cs then some (row c) else none :=
  get?_tabulate Value.text_beq cs row c

lemma put_named (hcs : cs.Nodup) (row : String → Row) (c : String) (new : Row) :
    put (named cs row) (.text c) new =
      named (if c ∈ cs then cs else cs ++ [c]) fun d => if d = c then new else row d :=
  put_tabulate Value.text_beq hcs row c new

lemma afterPushes_eq (ps : List Push) : afterPushes ps = named (reporters ps) (keptOf ps) := by
  induction ps using reverseRecOn with
  | nil => rfl
  | append_singleton ps p ih =>
    have hrow : (fun d => if d = p.cluster then stamp p.cluster p.report p.time else keptOf ps d) =
        keptOf (ps ++ [p]) := by
      funext d
      unfold keptOf
      rw [last?_append]
      by_cases hd : d = p.cluster
      · simp [hd]
      · simp [hd, Ne.symm hd]
    have hpush : afterPushes (ps ++ [p]) =
        put (afterPushes ps) (.text p.cluster) (stamp p.cluster p.report p.time) := by
      simp [afterPushes, Store.push]
    rw [hpush, ih, put_named (nodup_reporters ps), reporters_append, hrow]

lemma afterPushes_last? (h : c ∈ reporters ps) : afterPushes (last? ps c).toList = named [c] (keptOf ps) := by
  obtain ⟨p, hp⟩ := exists_last? h
  obtain rfl : p.cluster = c := beq_iff_eq.mp (find?_some hp :)
  simp [afterPushes, Store.push, put, named, keptOf, hp]

lemma get?_afterPushes (ps : List Push) (c : String) :
    get? (afterPushes ps) (.text c) = get? (afterPushes (last? ps c).toList) (.text c) := by
  by_cases h : c ∈ reporters ps
  · rw [afterPushes_last? h, afterPushes_eq, get?_named, get?_named, if_pos h, if_pos mem_cons_self]
  · have hnone : last? ps c = none := by
      refine find?_eq_none.mpr fun p hp hc => h (mem_reporters.mpr ⟨p, ?_, beq_iff_eq.mp hc⟩)
      exact mem_reverse.mp hp
    rw [hnone, afterPushes_eq, get?_named, if_neg h]
    rfl

lemma summaries_named (cs : List String) (row : String → Row) :
    Store.summaries (named cs row) = cs.mapM fun c => summaryValue (.text c) (row c) := mapM_map

lemma summaries_named_singleton {row : String → Row} {entry : Value} :
    Store.summaries (named [c] row) = .ok [entry] ↔ summaryValue (.text c) (row c) = .ok entry := by
  rw [summaries_named, mapM_cons]
  cases summaryValue (.text c) (row c) with
  | error f => exact iff_of_false nofun nofun
  | ok v => exact ⟨fun h => by cases h; rfl, fun h => by cases h; rfl⟩

def ToldApart (ps : List Push) : Prop :=
  ∃ entries, (afterPushes ps).summaries = .ok entries ∧
    List.Forall₂ (fun c entry => (afterPushes (last? ps c).toList).summaries = .ok [entry]) (reporters ps) entries

lemma toldApart_iff : ToldApart ps ↔ ∀ c ∈ reporters ps, SumsUp ps c := by
  have halo : ∀ c ∈ reporters ps, ∀ entry, (afterPushes (last? ps c).toList).summaries = .ok [entry] ↔
      summaryValue (.text c) (keptOf ps c) = .ok entry := by
    intro c hc entry
    rw [afterPushes_last? hc, summaries_named_singleton]
  unfold ToldApart
  rw [afterPushes_eq, summaries_named]
  constructor
  · rintro ⟨entries, hent, -⟩ c hc
    obtain ⟨entry, hetr⟩ := Billing.exists_eq_ok_of_mapM hent hc
    exact ⟨entry, (halo c hc entry).mpr hetr⟩
  · intro hsums
    obtain ⟨entries, hent⟩ := Billing.exists_mapM_eq_ok fun c hc =>
      (hsums c hc).imp fun entry => (halo c hc entry).mp
    refine ⟨entries, hent, ?_⟩
    have hall := (forall₂_and_left _ _).mpr ⟨fun c hc => hc, Billing.forall₂_of_mapM hent⟩
    exact hall.imp fun c entry ⟨hc, hetr⟩ => (halo c hc entry).mpr hetr

/-- However many reports have arrived: what is told of a cluster's namespaces and pods is what its last report tells by
itself, and one more report changes nothing of that for other clusters. -/
theorem reports_told_apart_iff (ps : List Push) :
    (∀ c : String, (afterPushes ps).namespaceCosts c = (afterPushes (last? ps c).toList).namespaceCosts c ∧
      (afterPushes ps).rightsizing c = (afterPushes (last? ps c).toList).rightsizing c) ∧
    (∀ (p : Push) (c : String), c ≠ p.cluster → last? (ps ++ [p]) c = last? ps c ∧
      (afterPushes (ps ++ [p])).namespaceCosts c = (afterPushes ps).namespaceCosts c ∧
      (afterPushes (ps ++ [p])).rightsizing c = (afterPushes ps).rightsizing c) ∧
    (ToldApart ps ↔ ∀ c ∈ reporters ps, SumsUp ps c) ∧
    (ToldApart ps → ∀ p : Push, ToldApart (ps ++ [p]) ↔ SumsUp [p] p.cluster) := by
  have halo : ∀ (ps : List Push) (c : String),
      (afterPushes ps).namespaceCosts c = (afterPushes (last? ps c).toList).namespaceCosts c ∧
      (afterPushes ps).rightsizing c = (afterPushes (last? ps c).toList).rightsizing c := by
    intro ps c
    unfold Store.namespaceCosts Store.rightsizing
    rw [get?_afterPushes]
    exact ⟨rfl, rfl⟩
  refine ⟨halo ps, fun p c hc => ?_, toldApart_iff, fun htold p => ?_⟩
  · have hlast : last? (ps ++ [p]) c = last? ps c := by rw [last?_append, if_neg hc.symm]
    grind
  · have hself : SumsUp (ps ++ [p]) p.cluster ↔ SumsUp [p] p.cluster := by
      have h : last? (ps ++ [p]) p.cluster = last? [p] p.cluster := by simp [last?]
      unfold SumsUp
      rw [h]
    rw [toldApart_iff, ← hself]
    constructor
    · exact fun hsums => hsums _ (mem_reporters.mpr ⟨p, by simp, rfl⟩)
    · intro hsums c hc
      by_cases hcp : c = p.cluster
      · exact hcp ▸ hsums
      · obtain ⟨q, hq, rfl⟩ := mem_reporters.mp hc
        have hmem : q ∈ ps := by
          grind
        have hbef := toldApart_iff.mp htold _ (mem_reporters.mpr ⟨q, hmem, rfl⟩)
        unfold SumsUp at hbef ⊢
        rwa [last?_append, if_neg (Ne.symm hcp)]

def emptyReport : Push := ⟨"a", [], default⟩

def openReport : Push := ⟨"b", [("pods", .list [.object [("cpu_usage_millicores", .null)]])], default⟩

lemma toldApart_emptyReport : ToldApart [emptyReport] := by
  refine toldApart_iff.mpr fun c hc => ?_
  obtain rfl : c = "a" := by simpa [mem_reporters, emptyReport, eq_comm] using hc
  have hone : ((afterPushes (last? [emptyReport] "a").toList).summaries.toOption.map length) = some 1 := by decide +kernel
  obtain ⟨entries, hent, hlen⟩ := Option.map_eq_some_iff.mp hone
  obtain ⟨entry, rfl⟩ := length_eq_one_iff.mp hlen
  exact ⟨entry, Result.eq_ok_of_toOption hent⟩

/-- Of a cluster there is an overview, and a report that leaves something open changes nothing of what else
is told of it. -/
theorem reports_told_apart_of_open : ("a" : String) ≠ openReport.cluster ∧
    (afterPushes [emptyReport, openReport]).namespaceCosts "a" = (afterPushes [emptyReport]).namespaceCosts "a" ∧
    ToldApart [emptyReport] ∧ (ToldApart [emptyReport, openReport] ↔ SumsUp [openReport] "b") := by
  have h := reports_told_apart_iff [emptyReport]
  exact ⟨by decide, (h.2.1 openReport "a" (by decide)).2.1, toldApart_emptyReport,
    h.2.2.2 toldApart_emptyReport openReport⟩

/-- But then there is no overview any more. -/
theorem overview_lost_of_open : ToldApart [emptyReport] ∧
    ∀ entries, (afterPushes [emptyReport, openReport]).summaries ≠ .ok entries := by
  refine ⟨toldApart_emptyReport, fun entries hent => ?_⟩
  rw [afterPushes_eq, summaries_named] at hent
  obtain ⟨entry, hetr⟩ := Billing.exists_eq_ok_of_mapM hent
    (mem_reporters.mpr ⟨openReport, by simp, rfl⟩)
  exact absurd hetr nofun

end CloudSpend.Cluster
