import CloudSpend.Proofs.Filter.Pieces
import CloudSpend.Proofs.Filter.RoundTrip

/-! # The numbers of placeholders -/

namespace CloudSpend.Filter

open List Dialect Fragment String

variable {ds : List Char} {ps rest : List Piece}

variable {m : Char} {more : List Char}

def EndsSlot : List Piece → Prop
  | [] => True
  | .written s :: _ => ∃ c cs, s.toList = c :: cs ∧ c.isDigit = false
  | _ => False

inductive Legible (m : Char) : List Piece → Prop
  | nil : Legible m []
  | written {s : String} {ps : List Piece} (hs : m ∉ s.toList) (h : Legible m ps) :
      Legible m (.written s :: ps)
  | named {s : String} {ps : List Piece} (hs : m ∉ s.toList) (h : Legible m ps) :
      Legible m (.named s :: ps)
  | slot (n : Nat) {ps : List Piece} (hps : EndsSlot ps) (h : Legible m ps) : Legible m (.slot n :: ps)

lemma EndsSlot.takeWhile (slot : Nat → String) (h : EndsSlot ps) :
    (textOf slot ps).toList.takeWhile Char.isDigit = [] := by
  match ps, h with
  | [], _ => rfl
  | .written s :: ps, h =>
    obtain ⟨c, cs, hs, hc⟩ := h
    simp [Piece.text, hs, hc]

def IsNumbered (mark : List Char) (slot : Nat → String) : Prop :=
  ∃ base, ∀ n, (slot n).toList = mark ++ Nat.toDigits 10 (n + base)

lemma isNumbered_records : IsNumbered ['$'] records.slot := ⟨1, by simp [slot]⟩

lemma isNumbered_stored (table : String) : IsNumbered [':', 'p'] (stored table).slot :=
  ⟨0, by simp [slot]⟩

namespace Expr

variable {d : Dialect} {e : Expr} {bound : List Value} {limit : Nat}

end Expr

variable (f : String) (t : Test)

end CloudSpend.Filter
