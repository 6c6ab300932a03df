import CloudSpend.Proofs.Data.Entries
import CloudSpend.Proofs.Text.Characters
import CloudSpend.Storage.Files

/-! # Paths, directories and what is put into them -/

namespace CloudSpend.Text

open List

variable {c : Char}

lemma splitFrom_append {piece : List Char} (h : c ∉ piece) (current rest : List Char) :
    splitFrom [c] 0 current (piece ++ rest) = splitFrom [c] 0 (piece.reverse ++ current) rest := by
  induction piece generalizing current with
  | nil => rfl
  | cons d piece ih =>
    rw [mem_cons, not_or] at h
    have hne : ¬ [c].isPrefixOf (d :: (piece ++ rest)) = true := by simpa using h.1
    rw [cons_append, splitFrom, if_neg hne, ih h.2]
    simp

lemma split_intercalate {pieces : List String} (hne : pieces ≠ []) (h : ∀ p ∈ pieces, c ∉ p.toList) :
    split ((String.singleton c).intercalate pieces) (String.singleton c) = pieces := by
  unfold split
  rw [String.toList_singleton]
  induction pieces with
  | nil => exact absurd rfl hne
  | cons p pieces ih =>
    have hp : c ∉ p.toList := h p (by simp)
    cases pieces with
    | nil =>
      have hspl := splitFrom_append hp [] []
      rw [append_nil] at hspl
      simp [String.intercalate_singleton, hspl, splitFrom]
    | cons q pieces =>
      have hrest := ih (by simp) fun r hr => h r (by simp [hr])
      rw [String.intercalate_cons_cons, String.toList_append, String.toList_append,
        String.toList_singleton, append_assoc, splitFrom_append hp, singleton_append,
        splitFrom, if_pos (by simp), length_singleton, Nat.sub_self, map_cons, hrest]
      simp

end CloudSpend.Text

namespace CloudSpend.Storage.Path

open List

structure IsName (n : String) : Prop where
  ne_empty : n ≠ ""
  ne_dot : n ≠ "."
  slash_not_mem : '/' ∉ n.toList

variable {parts : List String} {n : String} {c : Char}

lemma filter_of_isName (h : ∀ n ∈ parts, IsName n) :
    parts.filter (fun p => p != "" && p != ".") = parts := by
  rw [filter_eq_self]
  intro n hn
  simp [(h n hn).ne_empty, (h n hn).ne_dot]

lemma rootOf_append (hn : IsName n) (s : String) : rootOf (n ++ s) = "" := by
  unfold rootOf
  rw [String.toList_append]
  cases hcs : n.toList with
  | nil => exact absurd (String.toList_eq_nil_iff.mp hcs) hn.ne_empty
  | cons c cs =>
    have hc : c ≠ '/' := by
      rintro rfl
      exact hn.slash_not_mem (by simp [hcs])
    simp [hc]

lemma ofText_text (hne : parts ≠ []) (h : ∀ n ∈ parts, IsName n) :
    ofText (text ⟨"", parts⟩) = ⟨"", parts⟩ := by
  have htext : text ⟨"", parts⟩ = (String.singleton '/').intercalate parts := by
    simp [text, hne]
  have hspl : Text.split ((String.singleton '/').intercalate parts) "/" = parts :=
    Text.split_intercalate hne fun n hn => (h n hn).slash_not_mem
  have hroot : rootOf ((String.singleton '/').intercalate parts) = "" := by
    obtain ⟨n, rest, rfl⟩ := exists_cons_of_ne_nil hne
    have hn : IsName n := h n (by simp)
    cases rest with
    | nil => simpa using rootOf_append hn ""
    | cons m rest => rw [String.intercalate_cons_cons, String.append_assoc, rootOf_append hn]
  unfold ofText
  rw [htext, hspl, hroot, filter_of_isName h]

lemma join_of_isName (p : Path) (hn : IsName n) : p.join n = ⟨p.root, p.parts ++ [n]⟩ := by
  have hread : ofText n = ⟨"", [n]⟩ := by
    have := ofText_text (cons_ne_nil n []) (by simpa using hn)
    simpa [text] using this
  simp [join, hread]

structure IsPlain (n : String) : Prop extends IsName n where
  ne_dots : n ≠ ".."
  ascii : ∀ c ∈ n.toList, 0 < c.toNat ∧ c.toNat < 128
  length_le : n.toList.length ≤ 255

def isPlainChar (c : Char) : Bool := c != '/' && (decide (0 < c.toNat) && decide (c.toNat < 128))

lemma isPlainChar_iff : isPlainChar c = true ↔ c ≠ '/' ∧ 0 < c.toNat ∧ c.toNat < 128 := by
  simp [isPlainChar]

theorem IsPlain.of_chars (hsho : n.toList.length ≤ 255) (hlong : 3 ≤ n.toList.length)
    (hcha : ∀ c ∈ n.toList, isPlainChar c = true) : IsPlain n := by
  have hne : ∀ m : String, m.toList.length < 3 → n ≠ m := by
    rintro m hm rfl
    omega
  exact {
    ne_empty := hne "" (by decide)
    ne_dot := hne "." (by decide)
    ne_dots := hne ".." (by decide)
    slash_not_mem := fun hmem => (isPlainChar_iff.mp (hcha '/' hmem)).1 rfl
    ascii := fun c hc => (isPlainChar_iff.mp (hcha c hc)).2
    length_le := hsho }

lemma mem_intercalate (h : c ∈ ("/".intercalate parts).toList) :
    c = '/' ∨ ∃ n ∈ parts, c ∈ n.toList := by
  induction parts with
  | nil => simp at h
  | cons n parts ih =>
    cases parts with
    | nil => exact .inr ⟨n, by simp, by simpa using h⟩
    | cons m parts =>
      rw [String.intercalate_cons_cons, String.toList_append, String.toList_append,
        mem_append, mem_append] at h
      grind

lemma length_intercalate_le (h : ∀ n ∈ parts, n.toList.length ≤ 255) :
    ("/".intercalate parts).toList.length ≤ 256 * parts.length := by
  induction parts with
  | nil => simp
  | cons n parts ih =>
    have hn : n.toList.length ≤ 255 := h n (by simp)
    have hrest := ih fun m hm => h m (by simp [hm])
    cases parts with
    | nil =>
      rw [String.intercalate_singleton, length_singleton]
      omega
    | cons m parts =>
      have hsla : "/".toList.length = 1 := rfl
      rw [String.intercalate_cons_cons, String.toList_append, String.toList_append,
        length_append, length_append, hsla, length_cons]
      omega

lemma ascii_of_mem_text (hpar : ∀ n ∈ parts, IsPlain n) (hc : c ∈ (text ⟨"", parts⟩).toList) :
    0 < c.toNat ∧ c.toNat < 128 := by
  unfold text at hc
  split at hc
  · obtain rfl : c = '.' := by simpa using hc
    decide
  · rcases mem_intercalate (by simpa using hc) with rfl | ⟨n, hn, hc⟩
    · decide
    · exact (hpar n hn).ascii c hc

lemma length_text_le (hpar : ∀ n ∈ parts, IsPlain n) :
    (text ⟨"", parts⟩).toList.length ≤ 256 * parts.length + 1 := by
  unfold text
  split
  · exact Nat.le_add_left 1 _
  · have hle := length_intercalate_le fun n hn => (hpar n hn).length_le
    rw [String.empty_append]
    exact Nat.le_succ_of_le hle

end CloudSpend.Storage.Path

namespace CloudSpend.Storage.Files

open List

variable {fs fs' : Files} {place p q parts : List String} {n : String}

lemma isDirectory_iff :
    fs.isDirectory place = true ↔ place = [] ∨ place = ["/"] ∨ (place, Content.directory) ∈ fs ∨
      ∃ f ∈ fs, place <+: f.1 ∧ f.1 ≠ place := by
  simp only [isDirectory, Bool.or_eq_true, List.isEmpty_iff, beq_iff_eq, any_eq_true,
    Bool.and_eq_true, isPrefixOf_iff_prefix, bne_iff_ne]
  grind

lemma isDirectory_of_above (hq : fs.isDirectory q = true) (hp : p <+: q) : fs.isDirectory p = true := by
  by_cases heq : p = q
  · rwa [heq]
  rw [isDirectory_iff] at hq ⊢
  rcases hq with rfl | rfl | hmem | ⟨f, hmem, hpre, hne⟩
  · exact .inl (prefix_nil.mp hp)
  · rcases prefix_cons_iff.mp hp with h | ⟨t, rfl, ht⟩
    · exact .inl h
    · exact absurd (by rw [prefix_nil.mp ht]) heq
  · exact .inr (.inr (.inr ⟨_, hmem, hp, fun h => heq h.symm⟩))
  · refine .inr (.inr (.inr ⟨f, hmem, hp.trans hpre, ?_⟩))
    rintro rfl
    exact heq (hp.eq_of_length_le hpre.length_le)

def nextName (place q : List String) : Option String :=
  if place.isPrefixOf q then (q.drop place.length).head? else none

lemma names_eq (fs : Files) (place : List String) :
    fs.names place =
      (((fs.map Prod.fst).filterMap (nextName place)).filter (· != "/")).eraseDups := by
  rw [names, filterMap_map]
  rfl

lemma nextName_child (place : List String) (n : String) :
    nextName place (place ++ [n]) = some n := by
  simp [nextName, isPrefixOf_iff_prefix]

lemma nextName_of_above (h : q <+: place) : nextName place q = none := by
  unfold nextName
  grind

lemma names_put_above (fs : Files) (h : q <+: place) (c : Content) :
    (fs.put q c).names place = fs.names place := by
  rw [names_eq, names_eq, put]
  by_cases hmem : q ∈ fs.map Prod.fst
  · rw [Entries.map_fst_put_of_mem hmem]
  · rw [Entries.map_fst_put_of_not_mem hmem, filterMap_append]
    simp [nextName_of_above h]

lemma eraseDups_concat (l : List String) (n : String) :
    (l ++ [n]).eraseDups = if n ∈ l then l.eraseDups else l.eraseDups ++ [n] := by
  rw [eraseDups_append]
  by_cases hmem : n ∈ l
  · simp [removeAll, hmem]
  · have hsin : [n].eraseDups = [n] := rfl
    simp [removeAll, hmem, hsin]

lemma names_put_child (fs : Files) (place : List String) (hn : n ≠ "/") (c : Content) :
    (fs.put (place ++ [n]) c).names place =
      if n ∈ fs.names place then fs.names place else fs.names place ++ [n] := by
  have hchi := nextName_child place n
  rw [names_eq, names_eq, put]
  by_cases hmem : place ++ [n] ∈ fs.map Prod.fst
  · have hname : n ∈ (((fs.map Prod.fst).filterMap (nextName place)).filter (· != "/")).eraseDups := by
      rw [mem_eraseDups, mem_filter, mem_filterMap]
      exact ⟨⟨_, hmem, hchi⟩, bne_iff_ne.mpr hn⟩
    rw [Entries.map_fst_put_of_mem hmem, if_pos hname]
  · have hnew : [place ++ [n]].filterMap (nextName place) = [n] := by simp [hchi]
    have hkept : [n].filter (· != "/") = [n] := by simp [hn]
    rw [Entries.map_fst_put_of_not_mem hmem, filterMap_append, filter_append, hnew, hkept,
      eraseDups_concat]
    simp only [mem_eraseDups]

lemma step_eq_ok : fs.step place n = .ok q ↔ fs.isDirectory place = true ∧ n.utf8ByteSize ≤ maxName ∧
    q = if n = ".." then if place = ["/"] then place else place.dropLast else place ++ [n] := by
  unfold step
  grind

lemma eq_of_foldlM_step (hpar : ".." ∉ parts) (h : parts.foldlM fs.step place = .ok q) :
    q = place ++ parts := by
  induction parts generalizing place with
  | nil => simpa [pure, Except.pure] using h.symm
  | cons n parts ih =>
    rw [mem_cons, not_or] at hpar
    rw [foldlM_cons] at h
    obtain ⟨p, hstep, h⟩ := Result.of_bind_ok h
    obtain ⟨-, -, rfl⟩ := step_eq_ok.mp hstep
    rw [if_neg (Ne.symm hpar.1)] at h
    simpa using ih hpar.2 h

lemma locate_eq_ok {p : Path} : fs.locate p = .ok q ↔
    (∃ bytes, Text.bytes p.text = .ok bytes ∧ bytes.contains 0 = false ∧ bytes.length < maxPath) ∧
      p.parts.foldlM fs.step (if p.root.isEmpty then [] else ["/"]) = .ok q := by
  unfold locate
  grind

lemma eq_of_locate (hpar : ".." ∉ parts) (h : fs.locate ⟨"", parts⟩ = .ok q) : q = parts := by
  simpa using eq_of_foldlM_step hpar (locate_eq_ok.mp h).2

lemma foldlM_step_of_isDirectory (hpar : ".." ∉ parts)
    (hlen : ∀ n ∈ parts, n.utf8ByteSize ≤ maxName)
    (hdir : fs.isDirectory (place ++ parts.dropLast) = true) :
    parts.foldlM fs.step place = .ok (place ++ parts) := by
  induction parts generalizing place with
  | nil => simp [pure, Except.pure]
  | cons n parts ih =>
    rw [mem_cons, not_or] at hpar
    have hpla : fs.isDirectory place = true := isDirectory_of_above hdir (prefix_append _ _)
    have hstep : fs.step place n = .ok (place ++ [n]) :=
      step_eq_ok.mpr ⟨hpla, hlen n (by simp), (if_neg (Ne.symm hpar.1)).symm⟩
    rw [foldlM_cons, hstep]
    cases parts with
    | nil => simp [bind, Except.bind, pure, Except.pure]
    | cons m parts =>
      have htail : (m :: parts).foldlM fs.step (place ++ [n]) = .ok (place ++ [n] ++ m :: parts) :=
        ih hpar.2 (fun k hk => hlen k (mem_cons_of_mem _ hk)) (by simpa using hdir)
      exact htail.trans (by simp)

lemma locate_of_isPlain (fs : Files) (hpar : ∀ n ∈ parts, Path.IsPlain n) (hcou : parts.length ≤ 15)
    (hdir : fs.isDirectory parts.dropLast = true) : fs.locate ⟨"", parts⟩ = .ok parts := by
  have hcha : ∀ c ∈ (Path.text ⟨"", parts⟩).toList, 0 < c.toNat ∧ c.toNat < 128 :=
    fun c hc => Path.ascii_of_mem_text hpar hc
  have hlen : (Path.text ⟨"", parts⟩).toList.length < maxPath := by
    have hle := Path.length_text_le hpar
    unfold maxPath
    omega
  have hzero : ((Path.text ⟨"", parts⟩).toList.map Char.toNat).contains 0 = false := by
    grind
  have hdots : ".." ∉ parts := fun hmem => (hpar _ hmem).ne_dots rfl
  have hsize : ∀ n ∈ parts, n.utf8ByteSize ≤ maxName := by
    intro n hn
    rw [Text.utf8ByteSize_of_isAscii fun c hc => ((hpar n hn).ascii c hc).2]
    exact (hpar n hn).length_le
  refine locate_eq_ok.mpr ⟨⟨_, Text.bytes_of_isAscii fun c hc => (hcha c hc).2, hzero, by rwa [length_map]⟩, ?_⟩
  exact foldlM_step_of_isDirectory hdots hsize (by simpa using hdir)

structure Extends (fs fs' : Files) (place : List String) : Prop where
  get?_eq : ∀ q c, Entries.get? fs q = some c → Entries.get? fs' q = some c
  names_eq : ∀ q, place <+: q → fs'.names q = fs.names q

lemma Extends.refl (fs : Files) (place : List String) : Extends fs fs place :=
  ⟨fun _ _ h => h, fun _ _ => rfl⟩

lemma Extends.trans {fs1 fs2 fs3 : Files} (h1 : Extends fs1 fs2 p) (h2 : Extends fs2 fs3 q)
    (hpq : p <+: q) : Extends fs1 fs3 q where
  get?_eq := fun r c h => h2.get?_eq r c (h1.get?_eq r c h)
  names_eq := fun r h => (h2.names_eq r h).trans (h1.names_eq r (hpq.trans h))

lemma get?_eq_none (h : fs.get? place = none) : Entries.get? fs place = none := by
  unfold get? at h
  grind

lemma isDirectory_of_get? (h : fs.get? place = some .directory) : fs.isDirectory place = true := by
  unfold get? at h
  cases hent : Entries.get? fs place with
  | none =>
    rw [hent] at h
    by_contra hdir
    simp [hdir] at h
  | some c =>
    rw [hent] at h
    cases h
    exact isDirectory_iff.mpr (.inr (.inr (.inl (Entries.mem_of_get? hent))))

lemma get?_of_entry {c : Content} (h : Entries.get? fs place = some c) : fs.get? place = some c := by
  unfold get?
  rw [h]

lemma get?_put_child (h : fs.get? place = some .directory) (n : String) (c : Content) :
    (fs.put (place ++ [n]) c).get? place = some .directory := by
  have hent : Entries.get? (fs.put (place ++ [n]) c) place = Entries.get? fs place :=
    Entries.get?_put_of_ne fs (by simp) c
  unfold get? at h ⊢
  rw [hent]
  cases hpla : Entries.get? fs place with
  | some d => rw [hpla] at h; exact h
  | none =>
    have hchi : (place ++ [n], c) ∈ fs.put (place ++ [n]) c :=
      Entries.mem_of_get? (Entries.get?_put_self _ _ _)
    have hdir : (fs.put (place ++ [n]) c).isDirectory place = true :=
      isDirectory_iff.mpr (.inr (.inr (.inr ⟨_, hchi, prefix_append _ _, by simp⟩)))
    simp [hdir]

lemma makeOne_spec (hpar : ".." ∉ parts) (h : fs.makeOne ⟨"", parts⟩ = .ok (.ok fs')) :
    fs'.get? parts = some .directory ∧ Extends fs fs' parts := by
  unfold makeOne at h
  cases hloc : fs.locate ⟨"", parts⟩ with
  | error o => simp [hloc] at h
  | ok place =>
    obtain rfl := eq_of_locate hpar hloc
    simp only [hloc] at h
    split at h
    · next hget =>
        cases h
        exact ⟨hget, Extends.refl _ _⟩
    · cases h
    · next hget =>
        cases h
        have hent := get?_eq_none hget
        refine ⟨get?_of_entry (Entries.get?_put_self _ _ _), ?_, ?_⟩
        · intro q c hq
          have hne : q ≠ place := by
            rintro rfl
            simp [hent] at hq
          rw [put, Entries.get?_put_of_ne _ hne, hq]
        · exact fun q hq => names_put_above fs hq _

lemma makeOne_nil_ne (fs : Files) : fs.makeOne ⟨"", []⟩ ≠ .error .missing := by
  have hloc : fs.locate ⟨"", []⟩ = .ok [] := locate_of_isPlain fs (by simp) (by simp) rfl
  unfold makeOne
  simp only [hloc]
  split <;> simp

theorem makeDirectories_spec {bound : Nat} (hbou : parts.length < bound) (hpar : ".." ∉ parts)
    (h : makeDirectories bound fs ⟨"", parts⟩ = (fs', .ok ())) :
    fs'.get? parts = some .directory ∧ Extends fs fs' parts := by
  induction bound generalizing fs fs' parts with
  | zero => omega
  | succ bound ih =>
    unfold makeDirectories at h
    split at h
    · next hmade =>
        cases h
        exact makeOne_spec hpar hmade
    · cases h
    · next hmis =>
        have hne : parts ≠ [] := by
          rintro rfl
          exact makeOne_nil_ne fs hmis
        have hlen : parts.dropLast.length < bound := by
          have := length_pos_iff.mpr hne
          rw [length_dropLast]
          omega
        have hdro : ".." ∉ parts.dropLast := fun hmem =>
          hpar (( dropLast_prefix parts).subset hmem)
        rcases hrec : makeDirectories bound fs ⟨"", parts.dropLast⟩ with ⟨fs1, e | u⟩
        · simp [Path.parent, hrec] at h
        · obtain ⟨-, hfir⟩ := ih hlen hdro hrec
          simp only [Path.parent, hrec] at h
          split at h
          · next hmade =>
              cases h
              obtain ⟨hdir, hsec⟩ := makeOne_spec hpar hmade
              exact ⟨hdir, hfir.trans hsec ( dropLast_prefix parts)⟩
          · cases h
          · cases h
    · cases h

end CloudSpend.Storage.Files
