import Mathlib
import ConceptSpace.Proofs.ValueOrder

/-! Ratios of counts in floating point.
A count that is not zero becomes a normal value: rounding keeps the full width of its mantissa and moves
its exponent by one at most. So a ratio of such counts is a number not below zero, and a count divided
by itself is one. -/
namespace ConceptSpace.ValueOrder
open Float.Model UnpackedFloat

def Normal (bound : Nat) (u : UnpackedFloat) : Prop :=
  ∃ m e positive, u = .finite .positive m e positive ∧ m.log2 = 52 ∧ -52 ≤ e ∧ e + 53 ≤ bound

theorem Normal.mono {bound more : Nat} {u : UnpackedFloat} (normal : Normal bound u) (up : bound ≤ more) :
    Normal more u := by
  obtain ⟨m, e, positive, same, full, least, most⟩ := normal
  exact ⟨m, e, positive, same, full, least, by omega⟩

theorem log2Shift {n : Nat} (filled : n ≠ 0) (k : Nat) : (n <<< k).log2 = n.log2 + k := by
  rw [Nat.shiftLeft_eq, Nat.log2_eq_iff (Nat.mul_ne_zero filled (Nat.two_pow_pos k).ne')]
  have low := Nat.log2_self_le filled
  have high := Nat.lt_log2_self (n := n)
  rw [Nat.pow_add, show n.log2 + k + 1 = n.log2 + 1 + k by omega, Nat.pow_add 2 (n.log2 + 1)]
  exact ⟨Nat.mul_le_mul_right _ low, Nat.mul_lt_mul_of_pos_right high (Nat.two_pow_pos k)⟩

theorem shiftedMantissa (m : ExtendedMantissa) (n : Nat) : (m >>> n).mantissa = m.mantissa / 2 ^ n := by
  change (n.repeat ExtendedMantissa.shiftRightOne m).mantissa = _
  induction n with
  | zero => simp [Nat.repeat]
  | succ n ih =>
    rw [Nat.repeat, ExtendedMantissa.shiftRightOne, ih, Nat.div_div_eq_div_mul, Nat.pow_succ]

theorem roundedNear (m : ExtendedMantissa) :
    m.mantissa ≤ m.roundedMantissa ∧ m.roundedMantissa ≤ m.mantissa + 1 := by
  obtain ⟨n, _ | _, _ | _⟩ := m
  all_goals simp only [ExtendedMantissa.roundedMantissa, ExtendedMantissa.accuracy,
    Accuracy.roundToNearestEven]
  all_goals omega

theorem targetNormal {m : Nat} {e : Int} (atLeast : 1 ≤ m.log2 + 1 + e) :
    Format.binary64.targetExponent (totalExponent m e) = m.log2 - 52 + e := by
  simp only [Format.targetExponent, totalExponent, Format.mantissaBits, Format.minExponent]
  omega

theorem shiftedOnce {m : Nat} {e : Int} (least : 2 ^ 52 ≤ m) (most : m ≤ 2 ^ 53) (atLeast : -52 ≤ e) :
    ∃ n f, (shiftToTargetExponent Format.binary64 m e .exact).1.mantissa = n ∧
      (shiftToTargetExponent Format.binary64 m e .exact).2 = f ∧ n.log2 = 52 ∧ e ≤ f ∧ f ≤ e + 1 := by
  refine ⟨_, _, rfl, rfl, ?_⟩
  have filled : m ≠ 0 := by omega
  rcases Nat.lt_or_eq_of_le most with below | rfl
  · have width : m.log2 = 52 := (Nat.log2_eq_iff filled).mpr ⟨least, below⟩
    have target := targetNormal (m := m) (e := e) (by omega)
    have still : ((m.log2 : Int) - 52 + e - e).toNat = 0 := by omega
    simp only [shiftToTargetExponent, target, shiftToExponent, still, shiftedMantissa]
    simp [ExtendedMantissa.ofMantissaAndAccuracy, width]
  · have width : (2 ^ 53).log2 = 53 := Nat.log2_two_pow
    have target := targetNormal (m := 2 ^ 53) (e := e) (by omega)
    have once : (((2 ^ 53).log2 : Int) - 52 + e - e).toNat = 1 := by omega
    simp only [shiftToTargetExponent, target, shiftToExponent, once, shiftedMantissa]
    refine ⟨?_, by omega, by omega⟩
    change (2 ^ 53 / 2 ^ 1).log2 = 52
    rw [show 2 ^ 53 / 2 ^ 1 = 2 ^ 52 by norm_num, Nat.log2_two_pow]

theorem roundedNormal {m : Nat} {e : Int} (wide : 52 ≤ m.log2) (atLeast : 1 ≤ m.log2 + 1 + e) {bound : Nat}
    (below : m.log2 + 1 + e ≤ bound) :
    Normal (bound + 1) (roundWithAccuracy Format.binary64 .positive m e .exact) := by
  have filled : m ≠ 0 := by
    rintro rfl
    simp at wide
  obtain ⟨k, split⟩ := Nat.exists_eq_add_of_le wide
  have shift : ((m.log2 : Int) - 52 + e - e).toNat = k := by omega
  have low := Nat.log2_self_le filled
  have high := Nat.lt_log2_self (n := m)
  generalize first : (ExtendedMantissa.ofMantissaAndAccuracy m .exact >>> k) = em
  have quotient : em.mantissa = m / 2 ^ k := by rw [← first, shiftedMantissa]; rfl
  have least : 2 ^ 52 ≤ em.mantissa := by
    rw [quotient, Nat.le_div_iff_mul_le (Nat.two_pow_pos k), ← Nat.pow_add, ← split]
    exact low
  have most : em.mantissa < 2 ^ 53 := by
    rw [quotient, Nat.div_lt_iff_lt_mul (Nat.two_pow_pos k), ← Nat.pow_add,
      show 53 + k = m.log2 + 1 by omega]
    exact high
  obtain ⟨down, up⟩ := roundedNear em
  obtain ⟨n, f, mantissa, exponent, width, kept, raised⟩ :=
    shiftedOnce (m := em.roundedMantissa) (e := e + k) (by omega) (by omega) (by omega)
  have positive : n ≠ 0 := by
    rintro rfl
    simp at width
  have rounded : roundWithAccuracy Format.binary64 .positive m e .exact =
      .finite .positive n f (Nat.pos_of_ne_zero positive) := by
    rw [roundWithAccuracy]
    have begun : shiftToTargetExponent Format.binary64 m e .exact = (em, e + k) := by
      simp only [shiftToTargetExponent, targetNormal atLeast, shiftToExponent, shift, first]
    simp only [begun, mantissa, exponent, positive, dite_false]
  exact ⟨n, f, Nat.pos_of_ne_zero positive, rounded, width, by omega, by omega⟩

theorem packedNormal {bound : Nat} {u : UnpackedFloat} (small : bound ≤ 1000) (normal : Normal bound u) :
    (Float.Model.pack u).unpack = u := by
  obtain ⟨m, e, positive, rfl, width, least, most⟩ := normal
  obtain ⟨low, high⟩ := (Nat.log2_eq_iff positive.ne').mp width
  obtain ⟨b, biased⟩ : ∃ b : Nat, e + 1075 = b := ⟨(e + 1075).toNat, by omega⟩
  have bits : (e + (Format.binary64.exponentBias : Int) + (52 : Nat)).toNat = b := by
    rw [show (Format.binary64.exponentBias : Int) = 1023 by decide]
    omega
  have exponent : (BitVec.ofNat 11 b).toNat = b := by
    rw [BitVec.toNat_ofNat, Nat.mod_eq_of_lt (by omega)]
  have apart (other : BitVec 11) (different : b ≠ other.toNat) : BitVec.ofNat 11 b ≠ other :=
    fun same => different (exponent.symm.trans (congrArg BitVec.toNat same))
  have full : BitVec.ofNat 11 b ≠ -1#11 := apart _ (by simp; omega)
  have filled : BitVec.ofNat 11 b ≠ 0#11 := apart _ (by simp; omega)
  have mantissa : (1#1 ++ BitVec.ofNat 52 m).toNat = m := by
    have lowBits : (BitVec.ofNat 52 m).toNat = m - 2 ^ 52 := by
      rw [BitVec.toNat_ofNat]
      omega
    rw [BitVec.toNat_append, ← Nat.shiftLeft_add_eq_or_of_lt (BitVec.isLt _), lowBits]
    have implicit : (1#1).toNat <<< 52 = 2 ^ 52 := by decide
    rw [implicit]
    omega
  have packed : pack Format.binary64 (.finite .positive m e positive) =
      packComponents Format.binary64 .positive (BitVec.ofNat 11 b) (BitVec.ofNat 52 m) := by
    simp only [UnpackedFloat.pack, bits, width]
    have whole : 52 + 1 = Format.binary64.mantissaBits := rfl
    rw [if_neg (by omega), if_pos whole]
  change unpack Format.binary64 (pack Format.binary64 (.finite .positive m e positive)) = _
  rw [packed]
  simp only [UnpackedFloat.unpack, unpackMantissa_packComponents, unpackExponent_packComponents,
    unpackSign_packComponents, Sign.ofBitVec_toBitVec, exponent, mantissa, if_neg full, if_neg filled]
  congr 1
  rw [← biased, show (Format.binary64.exponentBias : Int) = 1023 by decide]
  omega

theorem integerNormal {n bound : Nat} (filled : n ≠ 0) (small : n.log2 + 1 ≤ bound) :
    Normal (bound + 1) (UnpackedFloat.round Format.binary64 .positive n 0) := by
  have target := targetNormal (m := n) (e := 0) (by omega)
  obtain ⟨k, shift⟩ : ∃ k : Nat, (0 - ((n.log2 : Int) - 52 + 0)).toNat = k := ⟨_, rfl⟩
  have width := log2Shift filled k
  simp only [UnpackedFloat.round, target, decreaseExponent, shift]
  exact roundedNormal (by omega) (by omega) (by omega)

theorem scaledNormal {m k bound : Nat} {e : Int} (filled : m ≠ 0) (wide : 52 ≤ m.log2 + k)
    (atLeast : 1 ≤ m.log2 + 1 + e) (below : m.log2 + 1 + e ≤ bound) :
    Normal (bound + 1) (roundWithAccuracy Format.binary64 .positive (m <<< k) (e - k) .exact) := by
  have width := log2Shift filled k
  exact roundedNormal (by omega) (by omega) (by omega)

theorem narrowModel {n : Nat} (filled : n ≠ 0) (narrow : n < 2 ^ 53) : (Float.ofNat n).toModel =
    Float.Model.mul (Float.Model.pack (UnpackedFloat.round Format.binary64 .positive n 0))
      (Float.Model.ofBits 0x3FF0000000000000) := by
  have word : n.toUInt64.toNat = n := UInt64.toNat_ofNat_of_lt (Nat.lt_trans narrow (by decide))
  have converted : Float.Model.ofUInt64 n.toUInt64 =
      Float.Model.pack (UnpackedFloat.round Format.binary64 .positive n 0) := by
    rw [Float.Model.ofUInt64, UnpackedFloat.ofUInt64, UnpackedFloat.ofNat, UnpackedFloat.ofInt, word,
      UnpackedFloat.normalize, Int.compare_eq_gt.mpr (by omega)]
    rfl
  rw [← converted]
  change (Float.ofScientific n false 0).toModel = _
  rw [Float.ofScientific, dif_pos ⟨narrow, by decide⟩]
  rfl

theorem narrowNormal {n : Nat} (filled : n ≠ 0) (narrow : n < 2 ^ 53) :
    Normal 55 (Float.ofNat n).toModel.unpack := by
  have width : n.log2 < 53 := (Nat.log2_lt filled).mpr narrow
  have whole : Normal 54 (UnpackedFloat.round Format.binary64 .positive n 0) :=
    integerNormal filled (by omega)
  have read := packedNormal (by omega) whole
  obtain ⟨m, e, positive, same, full, least, most⟩ := whole
  have scaled : Normal 55
      (roundWithAccuracy Format.binary64 .positive (m <<< 52) (e - (52 : Nat)) .exact) :=
    scaledNormal positive.ne' (by omega) (by omega) (by omega)
  have product : (Float.ofNat n).toModel = Float.Model.pack
      (roundWithAccuracy Format.binary64 .positive (m <<< 52) (e - (52 : Nat)) .exact) := by
    rw [narrowModel filled narrow, Float.Model.mul, read, same, Nat.shiftLeft_eq]
    rfl
  rw [product, packedNormal (by omega) scaled]
  exact scaled

theorem wideModel {n : Nat} (filled : n ≠ 0) (wide : ¬ n < 2 ^ 53) : (Float.ofNat n).toModel =
    Float.Model.pack (roundWithAccuracy Format.binary64 .positive (n <<< 53) (0 - (53 : Nat)) .exact) := by
  have above : ¬ (0 : Int) < -((2 ^ Format.binary64.exponentBits : Int) + n.log2) := by
    simp
  have bits : Format.binary64.mantissaBits = 53 := rfl
  have sign : Sign.positive * Sign.positive = Sign.positive := rfl
  change (Float.ofScientific n false 0).toModel = _
  rw [Float.ofScientific, dif_neg fun both => wide both.1]
  change Float.Model.ofScientific n 0 = _
  rw [Float.Model.ofScientific, UnpackedFloat.ofScientific, dif_neg filled, if_neg (by decide),
    if_neg above, if_pos (by decide)]
  simp only [UnpackedFloat.mul, bits, sign, Int.toNat_zero, Nat.pow_zero, Nat.mul_one,
    Int.add_zero, Int.zero_sub]

theorem countNormal {n : Nat} (positive : 0 < n) (small : n < 2 ^ 66) :
    Normal 67 (Float.ofNat n).toModel.unpack := by
  have filled : n ≠ 0 := positive.ne'
  by_cases narrow : n < 2 ^ 53
  · exact (narrowNormal filled narrow).mono (by omega)
  · have width : n.log2 < 66 := (Nat.log2_lt filled).mpr small
    have scaled : Normal 67
        (roundWithAccuracy Format.binary64 .positive (n <<< 53) (0 - (53 : Nat)) .exact) :=
      scaledNormal filled (by omega) (by omega) (by omega)
    rwa [wideModel filled narrow, packedNormal (by omega) scaled]

inductive Plus : UnpackedFloat → Prop where
  | zero : Plus (.zero .positive)
  | finite (m e positive) : Plus (.finite .positive m e positive)
  | infinity : Plus (.infinity .positive)

theorem plusRank {u : UnpackedFloat} (plus : Plus u) : ∃ i ∈ rank u, toLex (0, toLex (0, 0)) ≤ i := by
  cases plus with
  | zero => exact ⟨_, rfl, le_refl _⟩
  | finite m e positive => exact ⟨_, rfl, by simp [Prod.Lex.toLex_le_toLex]⟩
  | infinity => exact ⟨_, rfl, by simp [Prod.Lex.toLex_le_toLex]⟩

theorem roundedPlus (m : Nat) (e : Int) (accuracy : Accuracy) :
    Plus (roundWithAccuracy Format.binary64 .positive m e accuracy) := by
  rw [roundWithAccuracy]
  dsimp only
  split
  · exact .zero
  · exact .finite _ _ _

theorem unpackedPlus {e : BitVec 11} {m : BitVec 52} (defined : e = -1#11 → m = 0#52) :
    Plus (UnpackedFloat.unpack Format.binary64 (packComponents Format.binary64 .positive e m)) := by
  simp only [UnpackedFloat.unpack, unpackMantissa_packComponents, unpackExponent_packComponents,
    unpackSign_packComponents, Sign.ofBitVec_toBitVec]
  split
  · rename_i full
    rw [if_pos (defined full)]
    exact .infinity
  · split
    · split
      · exact .zero
      · exact .finite _ _ _
    · exact .finite _ _ _

theorem packedPlus {u : UnpackedFloat} (plus : Plus u) : Plus (Float.Model.pack u).unpack := by
  change Plus (UnpackedFloat.unpack Format.binary64 (UnpackedFloat.pack Format.binary64 u))
  cases plus with
  | zero => exact unpackedPlus (by decide)
  | infinity => exact unpackedPlus (by decide)
  | finite m e positive =>
    rw [UnpackedFloat.pack]
    dsimp only
    split
    · exact unpackedPlus (by decide)
    · rename_i small
      split
      · refine unpackedPlus fun full => ?_
        have same := congrArg BitVec.toNat full
        rw [BitVec.toNat_ofNat, Nat.mod_eq_of_lt (by omega)] at same
        simp only [BitVec.neg_one_eq_allOnes, BitVec.toNat_allOnes] at same
        omega
      · exact unpackedPlus fun full => absurd full (by decide)

theorem dividedPlus {bound : Nat} {u v : UnpackedFloat} (left : u = .zero .positive ∨ Normal bound u)
    (right : Normal bound v) : Plus (UnpackedFloat.div Format.binary64 u v) := by
  obtain ⟨n, f, filled, rfl, _⟩ := right
  rcases left with rfl | ⟨m, e, positive, rfl, _⟩
  · exact .zero
  · exact roundedPlus _ _ _

theorem ratioPlus {k n : Nat} (positive : 0 < n) (small : n < 2 ^ 66) (part : k < 2 ^ 66) :
    Plus (Float.ofNat k / Float.ofNat n).toModel.unpack := by
  refine packedPlus (dividedPlus ?_ (countNormal positive small))
  rcases Nat.eq_zero_or_pos k with rfl | filled
  · exact .inl rfl
  · exact .inr (countNormal filled part)

theorem ratioSelf {n : Nat} (positive : 0 < n) (small : n < 2 ^ 66) : Float.ofNat n / Float.ofNat n = 1 := by
  obtain ⟨m, e, filled, same, _⟩ := countNormal positive small
  have target : Format.binary64.targetExponent 0 = -53 := by decide
  have core : divCore Format.binary64 m e m e = (2 ^ 53, -53, .exact) := by
    have quotient : m <<< 53 / m = 2 ^ 53 := by
      rw [Nat.shiftLeft_eq, Nat.mul_div_cancel_left _ filled]
    have rest : m <<< 53 % m = 0 := by rw [Nat.shiftLeft_eq, Nat.mul_mod_right]
    have least : min (0 : Int) (-53) = -53 := by decide
    have shift : (0 - (-53) : Int).toNat = 53 := by decide
    simp only [divCore, Int.sub_self, target, least, shift, quotient, rest, accuracyOfFraction, if_true]
  have quotient : UnpackedFloat.div Format.binary64 (.finite .positive m e filled)
      (.finite .positive m e filled) = roundWithAccuracy Format.binary64 .positive (2 ^ 53) (-53) .exact := by
    rw [UnpackedFloat.div, core]
    rfl
  change Float.ofModel (Float.Model.pack (UnpackedFloat.div Format.binary64 (Float.ofNat n).toModel.unpack
    (Float.ofNat n).toModel.unpack)) = 1
  rw [same, quotient]
  rfl

end ConceptSpace.ValueOrder
