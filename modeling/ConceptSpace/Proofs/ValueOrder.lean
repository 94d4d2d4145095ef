import Mathlib.Algebra.Order.Ring.Int
import Mathlib.Data.Nat.Cast.Order.Basic
import Mathlib.Data.Prod.Lex
import Mathlib.Order.Compare

/-! Order of floating-point values.
Two values compare by sign, exponent and mantissa, in that order, so what is below one value is below
every value that is at least as great. Only a value that is no number compares with none. -/
namespace ConceptSpace.ValueOrder
open Float.Model UnpackedFloat

def rank : UnpackedFloat → Option (ℤ ×ₗ ℤ ×ₗ ℤ)
  | .notANumber => none
  | .infinity .negative => some (toLex (-2, toLex (0, 0)))
  | .finite .negative mantissa exponent _ => some (toLex (-1, toLex (-exponent, -mantissa)))
  | .zero _ => some (toLex (0, toLex (0, 0)))
  | .finite .positive mantissa exponent _ => some (toLex (1, toLex (exponent, mantissa)))
  | .infinity .positive => some (toLex (2, toLex (0, 0)))

theorem compareNegated (a b : ℤ) : compare (-a) (-b) = (compare a b).swap := by
  have reversed : StrictAnti fun i : ℤ => -i := fun _ _ => Int.neg_lt_neg
  rw [← cmp_eq_compare, ← cmp_eq_compare, cmp_swap]
  exact reversed.cmp_map_eq a b

theorem compareCast (a b : ℕ) : compare (a : ℤ) (b : ℤ) = compare a b := by
  rw [← cmp_eq_compare, ← cmp_eq_compare]
  exact Nat.strictMono_cast.cmp_map_eq a b

theorem compareSigned (sign e e' m m' : ℤ) :
    compare (toLex (sign, toLex (e, m))) (toLex (sign, toLex (e', m'))) =
      (compare e e').then (compare m m') := by
  simp [Prod.Lex.compare_def, compareLex, compareOn]

theorem comparedRank (a b : UnpackedFloat) :
    a.compare b = (rank a).bind fun x => (rank b).map (compare x) := by
  rcases a with (_ | _) | _ | (_ | _) | ⟨_ | _, m, e, _⟩ <;>
    rcases b with (_ | _) | _ | (_ | _) | ⟨_ | _, m', e', _⟩
  -- All but two finite values of one sign are told apart by their signs.
  all_goals try rfl
  · change some ((compare e e').then (compare m m')).swap =
      some (compare (toLex (-1, toLex (-e, -(m : ℤ)))) (toLex (-1, toLex (-e', -(m' : ℤ)))))
    rw [compareSigned, compareNegated, compareNegated, compareCast, Ordering.swap_then]
  · change some ((compare e e').then (compare m m')) =
      some (compare (toLex (1, toLex (e, (m : ℤ)))) (toLex (1, toLex (e', (m' : ℤ)))))
    rw [compareSigned, compareCast]

theorem lessRank {x y : Float} :
    x < y ↔ ∃ i ∈ rank x.toModel.unpack, ∃ j ∈ rank y.toModel.unpack, i < j := by
  have model : x < y ↔ x.toModel.unpack.compare y.toModel.unpack = some .lt := by
    simp [LT.lt, Float.lt, Float.Model.lt, UnpackedFloat.lt]
  rw [model, comparedRank]
  simp [Option.bind_eq_some_iff, compare_lt_iff_lt]

theorem atMostRank {x y : Float} :
    x ≤ y ↔ ∃ i ∈ rank x.toModel.unpack, ∃ j ∈ rank y.toModel.unpack, i ≤ j := by
  have model : x ≤ y ↔ (x.toModel.unpack.compare y.toModel.unpack).any (·.isLE) = true :=
    decide_eq_true_iff
  rw [model, comparedRank]
  cases rank x.toModel.unpack with
  | none => simp
  | some i =>
    cases rank y.toModel.unpack with
    | none => simp
    | some j => simp [Ordering.isLE_iff_ne_gt, compare_le_iff_le]

theorem belowGreater {x y z : Float} (less : x < y) (atMost : y ≤ z) : x < z := by
  obtain ⟨i, rankX, j, rankY, below⟩ := lessRank.mp less
  obtain ⟨j', rankY', k, rankZ, upTo⟩ := atMostRank.mp atMost
  cases Option.some.inj (rankY.symm.trans rankY')
  exact lessRank.mpr ⟨i, rankX, k, rankZ, below.trans_le upTo⟩

theorem undefinedSum {x : Float} (undefined : x.isNaN = true) (y : Float) : (x + y).isNaN = true := by
  have none : x.toModel.unpack = .notANumber := by
    change x.toModel.unpack.isNaN = true at undefined
    unfold UnpackedFloat.isNaN at undefined
    split at undefined
    · assumption
    · cases undefined
  have sum : UnpackedFloat.add Format.binary64 x.toModel.unpack y.toModel.unpack = .notANumber := by
    rw [none]
    rfl
  change (pack (UnpackedFloat.add Format.binary64 x.toModel.unpack y.toModel.unpack)).unpack.isNaN = true
  rw [sum]
  decide

theorem definedRank {x : Float} {i : ℤ ×ₗ ℤ ×ₗ ℤ} (ranked : i ∈ rank x.toModel.unpack) :
    x.isNaN = false := by
  change x.toModel.unpack.isNaN = false
  cases value : x.toModel.unpack with
  | notANumber =>
    rw [value] at ranked
    cases ranked
  | infinity => rfl
  | zero => rfl
  | finite => rfl

theorem definedWithin {x y t : Float} (atMost : x ≤ y + t) : x.isNaN = false ∧ y.isNaN = false := by
  obtain ⟨i, ranked, j, rankedSum, _⟩ := atMostRank.mp atMost
  refine ⟨definedRank ranked, Bool.eq_false_iff.mpr fun undefined => ?_⟩
  exact Bool.eq_false_iff.mp (definedRank rankedSum) (undefinedSum undefined t)

end ConceptSpace.ValueOrder
