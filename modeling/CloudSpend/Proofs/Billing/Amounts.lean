import CloudSpend.Proofs.Billing.Tags
import CloudSpend.Proofs.Numeral.Nearest

/-! # Amounts of charges -/

namespace CloudSpend

open List
open Float.Model (Format UnpackedFloat)
open Float.Model.UnpackedFloat

namespace Billing

open Numeral Charge

def IsFinite (x : Float) : Prop := ∃ negative m e, Binary.ofFloat x = .finite negative m e

def Usable (x : Float) : Prop :=
  ∃ negative m e, Binary.ofFloat x = .finite negative m e ∧ (ratio m e).2 ≤ 10000 * (ratio m e).1

variable {x y : Float}

lemma le_ratio {m : Nat} {e : Int} (hm : 2 ^ 52 ≤ m) (h : -66 < e ∨ e = -66 ∧ 7378697629483821 ≤ m) :
    (ratio m e).2 ≤ 10000 * (ratio m e).1 := by
  unfold ratio
  split
  · have hpos : 0 < m * twoTo e.toNat := Nat.mul_pos (by omega) (Nat.two_pow_pos _)
    show 1 ≤ 10000 * (m * twoTo e.toNat)
    omega
  · show twoTo (-e).toNat ≤ 10000 * m
    rcases h with h | ⟨rfl, h⟩
    · have hpow : twoTo (-e).toNat ≤ 2 ^ 65 := Nat.pow_le_pow_right (by decide) (by omega)
      omega
    · exact Nat.le_trans (by decide) (Nat.mul_le_mul_left 10000 h)

lemma usable_of_isMaterial (hx : IsFinite x) (h : isMaterial x = true) : Usable x := by
  obtain ⟨negative, m, e, hx⟩ := hx
  have hlt : ∀ x y : Float, x < y ↔ x.toModel.unpack.lt y.toModel.unpack = true := fun _ _ => decide_eq_true_iff
  have hlea : (0.0001 : Float).toModel.unpack = .finite .positive 7378697629483821 (-66) (by decide) := by rfl
  have hx' : x.toModel.unpack = unpack Format.binary64 x.toBits.toBitVec := rfl
  rw [isMaterial, Bool.not_eq_true', decide_eq_false_iff_not, hlt, unpack_abs, hlea, hx', abs_lt_iff (by decide) hx] at h
  obtain ⟨-, -, hm⟩ := of_ofBits_eq_finite hx
  exact ⟨negative, m, e, hx, le_ratio (by omega) (by omega)⟩

lemma usable_of_rounded (hx : Usable x) (h : rounded x = .ok y) : Usable y := by
  obtain ⟨negative, m, e, hx, hlea⟩ := hx
  have hden : 0 < (ratio m e).2 := by
    unfold ratio
    split
    · exact Nat.one_pos
    · exact Nat.two_pow_pos _
  have huni : 100 ≤ scaled (ratio m e).1 (ratio m e).2 6 := by
    refine le_roundDiv hden ?_
    rw [show tenTo 6 = 1000000 from rfl]
    omega
  have hnea : nearest? negative (scaled (ratio m e).1 (ratio m e).2 6) (tenTo 6) = some y := by
    have hrou : roundTo? x 6 = some y := by
      unfold rounded at h
      split at h
      · next hy => rwa [Except.ok.inj h] at hy
      · cases h
    simpa only [roundTo?, hx] using hrou
  generalize scaled (ratio m e).1 (ratio m e).2 6 = units at huni hnea
  have hlog : 6 ≤ units.log2 := (Nat.le_log2 (by omega)).mpr (by omega)
  have hmil : (tenTo 6).log2 = 19 := by decide
  obtain ⟨e, m, he, hm, -, -, hnor, hbin⟩ := of_nearest? (by omega) (by decide) (by omega) hnea
  have hlea : e = -66 → 7378697629483821 ≤ m := by
    rintro rfl
    rw [hm]
    rcases huni.eq_or_lt with rfl | hmore
    · decide
    · exact le_roundDiv (by decide) (Nat.le_trans (by decide) (Nat.mul_le_mul_right _ hmore))
  split at hbin
  · exact ⟨_, _, _, hbin, le_ratio le_rfl (by omega)⟩
  · exact ⟨_, _, _, hbin, le_ratio hnor (by omega)⟩

variable {c : Cloud} {row : Value} {b : Charge}

lemma amount_of_charge {es : Row} (h : c.charge (.object es) = .ok (some b)) :
    ∃ x, readAmount (c.amountCell es) = .ok x ∧ isMaterial x = true ∧ rounded x = .ok b.amount := by
  cases c <;> simp only [Cloud.charge, Aws.charge, Gcp.charge, Azure.charge, Cloud.getD_object, Cloud.either_object,
    Cloud.ok_bind, Result.bind_eq_ok, unless_eq_ok, pure_eq_ok] at h <;> grind [Cloud.amountCell]

lemma object_of_charge {r : Option Charge} (h : c.charge row = .ok r) : ∃ es, row = .object es := by
  cases row with
  | object es => exact ⟨es, rfl⟩
  | _ => cases c <;> cases h

lemma of_collect {α β : Type} {f : α → Result (Option β)} {as : List α} {bs : List β} (h : collect f as = .ok bs) :
    (∀ a ∈ as, ∃ r, f a = .ok r) ∧ ∀ b ∈ bs, ∃ a ∈ as, f a = .ok (some b) := by
  induction as generalizing bs with
  | nil =>
    cases h
    simp
  | cons a as ih =>
    obtain ⟨found, rest, hfou, hrest, rfl⟩ := collect_cons_eq_ok h
    obtain ⟨hall, hsome⟩ := ih hrest
    refine ⟨forall_mem_cons.mpr ⟨⟨_, hfou⟩, hall⟩, fun b hb => ?_⟩
    rcases mem_append.mp hb with hb | hb
    · exact ⟨a, mem_cons_self, by rw [hfou, Option.mem_toList.mp hb]⟩
    · grind

lemma usable_of_charge {es : Row} (h : c.charge (.object es) = .ok (some b)) :
    ∃ x, (c.amountCell es).toFloat = .ok x ∧ (IsFinite x → Usable x ∧ Usable b.amount) := by
  obtain ⟨x, hread, hmat, hrou⟩ := amount_of_charge h
  unfold readAmount at hread
  split at hread
  · next hflo =>
      cases hread
      refine ⟨x, hflo, fun hfin => ?_⟩
      have hx := usable_of_isMaterial hfin hmat
      exact ⟨hx, usable_of_rounded hx hrou⟩
  · split at hread
    · cases hread
      exact absurd hmat (by decide)
    · cases hread

/-- The charges of some rows have usable amounts, and rows without one are left out, exactly if the rows whose amount
is no finite number are left out for another reason. -/
theorem amounts_usable_iff (c : Cloud) {rows : List Value} {cs : List Charge} (h : c.charges rows = .ok cs) :
    ((∀ b ∈ cs, Usable b.amount) ∧ ∀ es, .object es ∈ rows →
        (∀ x, (c.amountCell es).toFloat = .ok x → ¬ Usable x) → c.charge (.object es) = .ok none) ↔
      ∀ es x, .object es ∈ rows → (c.amountCell es).toFloat = .ok x → ¬ IsFinite x →
        c.charge (.object es) = .ok none := by
  obtain ⟨hall, hsome⟩ := of_collect h
  have husa : (∀ es x, .object es ∈ rows → (c.amountCell es).toFloat = .ok x → ¬ IsFinite x →
      c.charge (.object es) = .ok none) → ∀ es b, .object es ∈ rows → c.charge (.object es) = .ok (some b) →
        ∃ x, (c.amountCell es).toFloat = .ok x ∧ Usable x ∧ Usable b.amount := by
    intro hfin es b hes hcha
    obtain ⟨x, hx, hkept⟩ := usable_of_charge hcha
    refine ⟨x, hx, hkept ?_⟩
    by_contra hnot
    cases hcha.symm.trans (hfin es x hes hx hnot)
  constructor
  · rintro ⟨-, hdro⟩ es x hes hx hnot
    refine hdro es hes fun y hy hy' => hnot ?_
    cases hx.symm.trans hy
    obtain ⟨negative, m, e, hfin, -⟩ := hy'
    exact ⟨negative, m, e, hfin⟩
  · intro hfin
    constructor
    · intro b hb
      obtain ⟨row, hrow, hcha⟩ := hsome b hb
      obtain ⟨es, rfl⟩ := object_of_charge hcha
      obtain ⟨x, -, -, hkept⟩ := husa hfin es b hrow hcha
      exact hkept
    · intro es hes hnone
      obtain ⟨r, hcha⟩ := hall _ hes
      cases r with
      | none => exact hcha
      | some b =>
        obtain ⟨x, hx, hkept, -⟩ := husa hfin es b hes hcha
        exact absurd hkept (hnone x hx)

theorem amounts_usable_of_finite : Usable 5 ∧ ∃ cs, Cloud.aws.charges [.object (Aws.costRow [])] = .ok cs ∧
    ∀ b ∈ cs, Usable b.amount := by
  have hok : (Cloud.aws.charges [.object (Aws.costRow [])]).toOption.isSome = true := by decide
  obtain ⟨cs, hcs⟩ := Option.isSome_iff_exists.mp hok
  have hcs' := Result.eq_ok_of_toOption hcs
  refine ⟨⟨false, _, _, rfl, by decide⟩, cs, hcs', ((amounts_usable_iff .aws hcs').mpr ?_).1⟩
  rintro es x (_ | ⟨_, hes⟩) hx hnot
  · have hfive : (Cloud.aws.amountCell (Aws.costRow [])).toFloat = .ok 5 := by rfl
    cases hfive.symm.trans hx
    exact absurd ⟨false, _, _, rfl⟩ hnot
  · cases hes

/-- What is no number passes for an amount. -/
theorem nan_charged : ((Cloud.gcp.charges [.object [("cost", "nan"), ("usage_start_time", "2026-01-31")]]).toOption.map
    (·.map (·.amount.isNaN))) = some [true] := by
  decide

end Billing

end CloudSpend
