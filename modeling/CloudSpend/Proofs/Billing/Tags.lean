import CloudSpend.Proofs.Billing.Flaws
import Mathlib.Algebra.Order.BigOperators.Group.List
import Mathlib.Data.List.Perm.Subperm

/-! # Tags of resources -/

namespace CloudSpend

open List

namespace Text

variable {part cs : List Char}

lemma length_replaceFrom_le (part : List Char) (skip : Nat) (cs : List Char) :
    (replaceFrom part [] skip cs).length ≤ cs.length := by
  induction cs generalizing skip with
  | nil => cases skip <;> rfl
  | cons c cs ih => cases skip <;> grind [replaceFrom]

lemma length_replaceFrom_lt (hpart : part ≠ []) (h : occursIn part cs = true) :
    (replaceFrom part [] 0 cs).length < cs.length := by
  induction cs with
  | nil => simp [occursIn, hpart] at h
  | cons c cs ih => grind [replaceFrom, occursIn, length_replaceFrom_le]

lemma replaceFrom_of_not_occursIn (h : occursIn part cs = false) (new : List Char) :
    replaceFrom part new 0 cs = cs := by
  induction cs with
  | nil => rfl
  | cons c cs ih => grind [replaceFrom, occursIn]

lemma replaceFrom_append (hpart : part ≠ []) (new cs : List Char) :
    replaceFrom part new 0 (part ++ cs) = new ++ replaceFrom part new 0 cs := by
  have hskip : ∀ skipped, replaceFrom part new skipped.length (skipped ++ cs) = replaceFrom part new 0 cs := by
    intro skipped
    induction skipped with
    | nil => rfl
    | cons c skipped ih => exact ih
  cases part with
  | nil => exact absurd rfl hpart
  | cons c rest => simp [replaceFrom, hskip]

end Text

namespace Billing

lemma unless_eq_ok {b : Bool} {x : Result (Option Charge)} {c : Charge} :
    (if b then pure none else x) = .ok (some c) ↔ b = false ∧ x = .ok (some c) := by
  cases b with
  | false => simp
  | true => exact ⟨fun h => (nomatch h), fun h => nomatch h.1⟩

lemma pure_eq_ok {b c : Charge} : (pure (some b) : Result (Option Charge)) = .ok (some c) ↔ b = c :=
  ⟨fun h => by cases h; rfl, fun h => h ▸ rfl⟩

namespace Aws

open Entries

def keyOf (name : String) : String := Text.replace name tagMark ""

def tagColumns (es : Row) : Row := es.filter fun e => Text.startsWith e.1 tagMark && e.2.truthy

variable {es found tags : Row} {key name : String} {v : Value}

lemma startsWith_tagMark_iff : Text.startsWith name tagMark = true ↔ ∃ key, name = tagMark ++ key := by
  rw [Text.startsWith, isPrefixOf_iff_prefix]
  constructor
  · rintro ⟨rest, hrest⟩
    exact ⟨String.ofList rest, by rw [← String.toList_inj, ← hrest]; simp⟩
  · rintro ⟨key, rfl⟩
    simp

lemma exists_key_of_mem {e : String × Value} (h : e ∈ tagColumns es) : ∃ key, e.1 = tagMark ++ key :=
  startsWith_tagMark_iff.mp (Bool.and_eq_true_iff.mp (mem_filter.mp h).2).1

lemma mem_tagColumns : (tagMark ++ key, v) ∈ tagColumns es ↔ (tagMark ++ key, v) ∈ es ∧ v.truthy = true := by
  simp [tagColumns, startsWith_tagMark_iff.mpr ⟨key, rfl⟩]

lemma toList_keyOf (key : String) :
    (keyOf (tagMark ++ key)).toList = Text.replaceFrom tagMark.toList [] 0 key.toList := by
  rw [keyOf, Text.replace, String.toList_ofList, String.toList_append]
  exact Text.replaceFrom_append (by decide) _ _

lemma keyOf_eq (h : Text.occurs tagMark key = false) : keyOf (tagMark ++ key) = key := by
  rw [← String.toList_inj, toList_keyOf, Text.replaceFrom_of_not_occursIn h]

lemma eq_merge_of_tags (h : es.foldlM Cloud.addTag found = .ok tags) :
    tags = Entries.merge found ((tagColumns es).map fun e => (keyOf e.1, e.2)) := by
  induction es generalizing found with
  | nil =>
    cases h
    rfl
  | cons e es ih =>
    obtain ⟨next, hnext, h⟩ := Result.of_bind_ok h
    rw [ih h, tagColumns, tagColumns, filter_cons]
    unfold Cloud.addTag at hnext
    grind [Entries.merge, keyOf]

lemma not_occurs_of_subset {names : List String} (hnam : names.Nodup)
    (hmark : ∀ name ∈ names, ∃ key, name = tagMark ++ key) (h : names ⊆ names.map fun n => tagMark ++ keyOf n)
    (hkey : tagMark ++ key ∈ names) : Text.occurs tagMark key = false := by
  have hperm : names.Perm (names.map fun n => tagMark ++ keyOf n) :=
    (subperm_of_subset hnam h).perm_of_length_le (by simp)
  have hsum := (hperm.map fun n => n.toList.length).sum_eq
  rw [map_map] at hsum
  by_contra hocc
  refine absurd hsum (sum_lt_sum _ _ (fun n hn => ?_) ⟨_, hkey, ?_⟩).ne'
  · obtain ⟨key, rfl⟩ := hmark n hn
    simp [toList_keyOf, Text.length_replaceFrom_le]
  · have hlt : (Text.replaceFrom tagMark.toList [] 0 key.toList).length < key.toList.length :=
      Text.length_replaceFrom_lt (by decide) (by simpa [Text.occurs] using hocc)
    simpa [toList_keyOf] using hlt

lemma tags_of_charge {c : Charge} (h : charge (.object es) = .ok (some c)) :
    ∃ tags, Aws.tags es = .ok tags ∧ Charge.tagsText (.object tags) = .ok c.tags := by
  have hent : (Value.object es).entries = .ok es := rfl
  unfold charge at h
  simp only [Cloud.getD_object, Cloud.ok_bind, hent, Result.bind_eq_ok, unless_eq_ok, pure_eq_ok] at h
  obtain ⟨_, -, -, _, -, _, -, -, _, -, -, tags, htags, _, -, text, htext, rfl⟩ := h
  exact ⟨tags, htags, htext⟩

lemma exact_iff (hkeys : (es.map Prod.fst).Nodup) (htags : Aws.tags es = .ok tags) :
    (∀ key v, get? tags key = some v ↔ (tagMark ++ key, v) ∈ tagColumns es) ↔
      ∀ key v, (tagMark ++ key, v) ∈ tagColumns es → Text.occurs tagMark key = false := by
  have hnod : ((tagColumns es).map Prod.fst).Nodup := hkeys.sublist (filter_sublist.map _)
  have hmer : tags = Entries.merge [] ((tagColumns es).map fun e => (keyOf e.1, e.2)) := eq_merge_of_tags htags
  constructor
  · intro hget key v he
    refine not_occurs_of_subset hnod (fun name hname => ?_) (fun name hname => ?_) (mem_map_of_mem he)
    · obtain ⟨e, he, rfl⟩ := mem_map.mp hname
      exact exists_key_of_mem he
    · obtain ⟨e, he, rfl⟩ := mem_map.mp hname
      obtain ⟨key, hkey⟩ := exists_key_of_mem he
      have hmem := mem_of_get? ((hget key e.2).mpr (hkey ▸ he))
      rw [hmer] at hmem
      rcases mem_or_mem_of_mem_merge hmem with hmem | hmem
      · cases hmem
      · grind
  · intro hpla
    have hcol : ((tagColumns es).map fun e => (keyOf e.1, e.2)).map (fun e => (tagMark ++ e.1, e.2)) =
        tagColumns es := by
      rw [map_map]
      refine (map_congr_left fun e he => ?_).trans (map_id _)
      obtain ⟨key, hkey⟩ := exists_key_of_mem he
      have hkept : keyOf e.1 = key := hkey ▸ keyOf_eq (hpla key e.2 (hkey ▸ he))
      simp [hkept, ← hkey]
    generalize (tagColumns es).map (fun e => (keyOf e.1, e.2)) = named at hmer hcol
    rw [← hcol] at hnod ⊢
    have hnam : (named.map Prod.fst).Nodup := .of_map (tagMark ++ ·) (by rw [map_map] at hnod ⊢; exact hnod)
    intro key v
    rw [hmer, merge_of_nodup hnam, nil_append, get?_eq_some_iff_mem hnam]
    simp

/-- The tags of a charge are kept as they are exactly if no key contains the mark. -/
theorem tags_exact_iff {c : Charge} (decode : String → Result Value) (hkeys : (es.map Prod.fst).Nodup)
    (hcharge : charge (.object es) = .ok (some c))
    (hdecode : ∀ tags text, Aws.tags es = .ok tags → Json.encode (.object tags) = .ok text →
      decode text = .ok (.object tags)) :
    (c.tags = .null ↔ ∀ key v, (tagMark ++ key, v) ∈ es → v.truthy = false) ∧
    (c.tags ≠ .null → ∃ text tags, c.tags = .text text ∧ decode text = .ok (.object tags) ∧
      ((∀ key v, get? tags key = some v ↔ (tagMark ++ key, v) ∈ es ∧ v.truthy = true) ↔
        ∀ key v, (tagMark ++ key, v) ∈ es → v.truthy = true → Text.occurs tagMark key = false)) := by
  obtain ⟨tags, htags, htext⟩ := tags_of_charge hcharge
  have hnil : tags = [] ↔ ∀ key v, (tagMark ++ key, v) ∈ es → v.truthy = false := by
    rw [eq_merge_of_tags htags, merge_eq_nil_iff, map_eq_nil_iff, tagColumns, filter_eq_nil_iff]
    grind [startsWith_tagMark_iff]
  have hexa := exact_iff hkeys htags
  simp only [mem_tagColumns, and_imp] at hexa
  rw [Charge.tagsText] at htext
  split at htext
  · next htru =>
      obtain ⟨text, henc, hc⟩ := Result.map_eq_ok.mp htext
      have hne : tags ≠ [] := by
        rintro rfl
        cases htru
      simp [← hc, ← hnil, hne, hdecode _ _ htags henc, hexa]
  · next hfal =>
      have hemp : tags = [] := by
        cases tags with
        | nil => rfl
        | cons e rest => exact absurd rfl hfal
      simpa [← Except.ok.inj htext] using hnil.mp hemp

def costRow (columns : Row) : Row :=
  ("lineItem/UnblendedCost", "5") :: ("lineItem/UsageStartDate", "2026-01-31") :: columns

def teamRow : Row := costRow [(tagMark ++ "team", "core"), (tagMark ++ "stage", "")]

theorem tags_exact_of_team : ∃ c text tags, charge (.object teamRow) = .ok (some c) ∧ c.tags = .text text ∧
    Json.read text = .ok (.object tags) ∧
      ((∀ key v, get? tags key = some v ↔ (tagMark ++ key, v) ∈ teamRow ∧ v.truthy = true) ↔
        ∀ key v, (tagMark ++ key, v) ∈ teamRow → v.truthy = true → Text.occurs tagMark key = false) := by
  have htags : Aws.tags teamRow = .ok [("team", "core")] := rfl
  have henc : Json.encode (.object [("team", "core")]) = .ok "\x7b\"team\": \"core\"\x7d" := rfl
  have hsome : (charge (.object teamRow)).toOption.join.isSome = true := by decide
  obtain ⟨c, hc⟩ := Option.isSome_iff_exists.mp hsome
  have hcha := Result.eq_ok_of_toOption (Option.join_eq_some_iff.mp hc)
  obtain ⟨hnull, htext⟩ := tags_exact_iff Json.read (by decide) hcha (by
    intro tags text h h'
    cases htags.symm.trans h
    cases henc.symm.trans h'
    cbv)
  obtain ⟨text, tags, h⟩ := htext fun h => absurd (hnull.mp h "team" "core" (.tail _ (.tail _ (.head _)))) (by decide)
  exact ⟨c, text, tags, hcha, h⟩

/-- A key with the mark is cut down to another one. -/
theorem marked_key_lost :
    (charge (.object (costRow [(tagMark ++ tagMark ++ "team", "core"), (tagMark ++ "team", "web")]))).toOption.join.bind
      (fun c => c.tags.text?) = some "\x7b\"team\": \"web\"\x7d" := by
  decide

end Aws

end Billing

end CloudSpend
