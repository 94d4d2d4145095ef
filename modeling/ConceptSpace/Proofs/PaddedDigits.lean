import Mathlib.Data.String.Basic
import ConceptSpace.Decimal.Binary

/-! Padded numbers sort as texts the way they do as numbers, whatever follows them. -/
namespace ConceptSpace.Decimal

-- A lead is not made up for: the digits of one step add less than one to the step before.
theorem leadStays {cs ds : List Char} (same : cs.length = ds.length)
    (digits : ∀ c ∈ cs, c.isDigit = true) {i j : Nat} (less : i < j) :
    Nat.ofDigitChars 10 cs i < Nat.ofDigitChars 10 ds j := by
  induction cs generalizing ds i j with
  | nil =>
    cases List.length_eq_zero_iff.mp same.symm
    exact less
  | cons c cs ih =>
    cases ds with
    | nil => cases same
    | cons d ds =>
      obtain ⟨digit, rest⟩ := List.forall_mem_cons.mp digits
      have upToNine : c.toNat ≤ 57 := (Char.isDigit_iff_toNat.mp digit).2
      rw [Nat.ofDigitChars_cons, Nat.ofDigitChars_cons]
      refine ih (Nat.succ.inj same) rest ?_
      change 10 * i + (c.toNat - 48) < _
      omega

theorem digitsLess {cs ds : List Char} (same : cs.length = ds.length)
    (digits : ∀ c ∈ cs, c.isDigit = true) (others : ∀ d ∈ ds, d.isDigit = true) {i : Nat}
    (less : Nat.ofDigitChars 10 cs i < Nat.ofDigitChars 10 ds i) (s t : List Char) :
    cs ++ s < ds ++ t := by
  induction cs generalizing ds i with
  | nil =>
    cases List.length_eq_zero_iff.mp same.symm
    exact absurd less (Nat.lt_irrefl _)
  | cons c cs ih =>
    cases ds with
    | nil => cases same
    | cons d ds =>
      obtain ⟨_, rest⟩ := List.forall_mem_cons.mp digits
      obtain ⟨digit, otherRest⟩ := List.forall_mem_cons.mp others
      rw [Nat.ofDigitChars_cons, Nat.ofDigitChars_cons] at less
      rcases lt_trichotomy c d with ahead | rfl | behind
      · exact List.Lex.rel ahead
      · exact List.Lex.cons (ih (Nat.succ.inj same) rest otherRest less)
      · have fewer : d.toNat < c.toNat := behind
        have fromZero : 48 ≤ d.toNat := (Char.isDigit_iff_toNat.mp digit).1
        have lead : 10 * i + (d.toNat - '0'.toNat) < 10 * i + (c.toNat - '0'.toNat) := by
          change 10 * i + (d.toNat - 48) < 10 * i + (c.toNat - 48)
          omega
        exact absurd less (leadStays (Nat.succ.inj same).symm otherRest lead).asymm

theorem paddedDigits (width n : Nat) : ∀ c ∈ (padded width n).toList, c.isDigit = true := by
  intro c mem
  rw [padded, String.toList_ofList] at mem
  rcases List.mem_append.mp mem with zero | digit
  · rw [List.eq_of_mem_replicate zero]
    rfl
  · exact Nat.isDigit_of_mem_toDigits (by decide) (by decide) digit

theorem paddedLength {width n : Nat} (positive : 0 < width) (room : n < 10 ^ width) :
    (padded width n).toList.length = width := by
  have fits : (Nat.toDigits 10 n).length ≤ width :=
    (Nat.length_toDigits_le_iff (by decide) positive).mpr room
  rw [padded, String.toList_ofList, List.length_append, List.length_replicate]
  omega

theorem paddedValue (width n : Nat) : Nat.ofDigitChars 10 (padded width n).toList 0 = n := by
  rw [padded, String.toList_ofList, Nat.ofDigitChars_append, Nat.ofDigitChars_replicate_zero,
    Nat.mul_zero, Nat.ofDigitChars_ten_toDigits]

theorem paddedLess {width n m : Nat} (less : n < m) (room : m < 10 ^ width) (s t : String) :
    padded width n ++ s < padded width m ++ t := by
  have positive : 0 < width := by
    rcases Nat.eq_zero_or_pos width with rfl | positive
    · omega
    · exact positive
  have same : (padded width n).toList.length = (padded width m).toList.length := by
    rw [paddedLength positive (less.trans room), paddedLength positive room]
  have value : Nat.ofDigitChars 10 (padded width n).toList 0 <
      Nat.ofDigitChars 10 (padded width m).toList 0 := by
    rwa [paddedValue, paddedValue]
  rw [String.lt_iff_toList_lt, String.toList_append, String.toList_append]
  exact digitsLess same (paddedDigits _ _) (paddedDigits _ _) value _ _

end ConceptSpace.Decimal
