import Mathlib.Algebra.BigOperators.Intervals
import Mathlib.Algebra.BigOperators.Ring.List
import Mathlib.Algebra.Order.BigOperators.Group.Finset
import Mathlib.Algebra.Order.BigOperators.Group.List
import Mathlib.Algebra.Order.Field.Rat
import Mathlib.Tactic.FieldSimp
import Mathlib.Tactic.Linarith
import Mathlib.Tactic.Positivity
import ConceptSpace.Similarity.Metric

/-! The distance between histograms, in exact arithmetic.
A histogram's bins are not negative and sum to one. The work of moving one onto another is the sum of the
differences between their running totals, which agree behind the last bin. So the work is a distance, and
between histograms of some bins it is at most the number of steps from the first bin to the last. -/
namespace ConceptSpace.Histogram

theorem magnitudeAbs (x : ℚ) : magnitude x = |x| := by
  unfold magnitude
  split
  · rename_i below
    exact (abs_of_neg below).symm
  · rename_i least
    exact (abs_of_nonneg (not_lt.mp least)).symm

theorem clipLeast (x : ℚ) : 0 ≤ clip x := by
  unfold clip
  split
  · rename_i above
    exact above.le
  · exact le_rfl

theorem totalSum (xs : List ℚ) : total xs = xs.sum := List.sum_eq_foldl.symm

structure Spread (n : Nat) (p : List ℚ) : Prop where
  length : p.length = n
  least : ∀ x ∈ p, 0 ≤ x
  whole : p.sum = 1

section
variable {smoothing : ℚ} {xs : List ℚ}

theorem binsPositive (positive : 0 < smoothing) : ∀ x ∈ bins smoothing xs, 0 < x := by
  intro x listed
  obtain ⟨y, _, rfl⟩ := List.mem_map.mp listed
  exact add_pos_of_nonneg_of_pos (clipLeast y) positive

theorem totalPositive (positive : 0 < smoothing) (filled : xs ≠ []) : 0 < total (bins smoothing xs) := by
  rw [totalSum]
  exact List.sum_pos _ (binsPositive positive) (by simpa [bins] using filled)

theorem distributionSpread (positive : 0 < smoothing) (filled : xs ≠ []) :
    Spread xs.length (distribution smoothing xs) := by
  have some := totalPositive positive filled
  refine ⟨by simp [distribution, bins], fun x listed => ?_, ?_⟩
  · obtain ⟨y, bin, rfl⟩ := List.mem_map.mp listed
    exact (div_pos (binsPositive positive y bin) some).le
  · have scaled : (distribution smoothing xs).sum = (bins smoothing xs).sum / total (bins smoothing xs) := by
      simp only [distribution, div_eq_mul_inv, List.sum_map_mul_right, List.map_id']
    rw [scaled, ← totalSum, div_self some.ne']

end

def upTo (p : List ℚ) (i : Nat) : ℚ := (p.take i).sum

theorem upToCons (x : ℚ) (p : List ℚ) (i : Nat) : upTo (x :: p) (i + 1) = x + upTo p i := by
  rw [upTo, List.take_succ_cons, List.sum_cons, upTo]

theorem upToNext {p : List ℚ} {i : Nat} (inside : i < p.length) : upTo p (i + 1) = upTo p i + p[i] := by
  rw [upTo, List.take_succ_eq_append_getElem inside, List.sum_append, List.sum_singleton, upTo]

theorem transported (t : Transport ℚ) {p q : List ℚ} (same : p.length = q.length) :
    ((p.zip q).foldl Transport.step t).work = t.work +
      ∑ i ∈ Finset.range p.length, |(t.left + upTo p (i + 1)) - (t.right + upTo q (i + 1))| := by
  induction p generalizing q t with
  | nil => simp
  | cons x p ih =>
    obtain ⟨y, q, rfl⟩ := List.exists_cons_of_length_eq_add_one same.symm
    rw [List.zip_cons_cons, List.foldl_cons, ih _ (Nat.succ.inj same), List.length_cons,
      Finset.sum_range_succ']
    have none : ∀ p, upTo p 0 = 0 := fun _ => rfl
    simp only [Transport.step, magnitudeAbs, upToCons, none, add_zero, ← add_assoc]
    exact add_right_comm _ _ _

theorem workSum {p q : List ℚ} (same : p.length = q.length) :
    work p q = ∑ i ∈ Finset.range p.length, |upTo p (i + 1) - upTo q (i + 1)| := by
  rw [work, transported _ same]
  simp only [zero_add]

section
variable {n : Nat} {p q r : List ℚ}

theorem Spread.upToAll (spread : Spread n p) : upTo p n = 1 := by
  rw [upTo, ← spread.length, List.take_length, spread.whole]

theorem Spread.upToBounds (spread : Spread n p) (i : Nat) : 0 ≤ upTo p i ∧ upTo p i ≤ 1 := by
  have front : 0 ≤ (p.take i).sum :=
    List.sum_nonneg fun x listed => spread.least x (List.mem_of_mem_take listed)
  have back : 0 ≤ (p.drop i).sum :=
    List.sum_nonneg fun x listed => spread.least x (List.mem_of_mem_drop listed)
  have both : (p.take i).sum + (p.drop i).sum = 1 := by
    rw [← List.sum_append, List.take_append_drop, spread.whole]
  unfold upTo
  constructor <;> linarith

theorem Spread.work (first : Spread n p) (second : Spread n q) :
    Histogram.work p q = ∑ i ∈ Finset.range n, |upTo p (i + 1) - upTo q (i + 1)| := by
  rw [workSum (first.length.trans second.length.symm), first.length]

theorem workSymm (first : Spread n p) (second : Spread n q) : work p q = work q p := by
  rw [first.work second, second.work first]
  exact Finset.sum_congr rfl fun i _ => abs_sub_comm _ _

theorem workTriangle (first : Spread n p) (second : Spread n q) (third : Spread n r) :
    work p r ≤ work p q + work q r := by
  rw [first.work third, first.work second, second.work third, ← Finset.sum_add_distrib]
  exact Finset.sum_le_sum fun i _ => abs_sub_le _ _ _

theorem workLeast (first : Spread n p) (second : Spread n q) : 0 ≤ work p q := by
  rw [first.work second]
  exact Finset.sum_nonneg fun i _ => abs_nonneg _

theorem workMost (first : Spread n p) (second : Spread n q) (filled : n ≠ 0) : work p q ≤ n - 1 := by
  obtain ⟨m, rfl⟩ := Nat.exists_eq_add_one_of_ne_zero filled
  have each : ∀ i ∈ Finset.range m, |upTo p (i + 1) - upTo q (i + 1)| ≤ 1 := by
    intro i _
    obtain ⟨least, most⟩ := first.upToBounds (i + 1)
    obtain ⟨leastToo, mostToo⟩ := second.upToBounds (i + 1)
    exact abs_le.mpr ⟨by linarith, by linarith⟩
  have steps := Finset.sum_le_card_nsmul _ _ _ each
  rw [first.work second, Finset.sum_range_succ, first.upToAll, second.upToAll, sub_self, abs_zero, add_zero]
  simpa using steps

theorem workZero (first : Spread n p) (second : Spread n q) : work p q = 0 ↔ p = q := by
  have same := first.length.trans second.length.symm
  rw [first.work second, Finset.sum_eq_zero_iff_of_nonneg fun i _ => abs_nonneg _]
  constructor
  · intro level
    have totals : ∀ i ≤ n, upTo p i = upTo q i := by
      intro i inside
      cases i with
      | zero => rfl
      | succ i => exact sub_eq_zero.mp (abs_eq_zero.mp (level i (Finset.mem_range.mpr inside)))
    refine List.ext_getElem same fun i inside insideToo => ?_
    have next := totals (i + 1) (first.length ▸ inside)
    rw [upToNext inside, upToNext insideToo, totals i (first.length ▸ inside.le)] at next
    exact add_left_cancel next
  · rintro rfl i _
    rw [sub_self, abs_zero]

end

end ConceptSpace.Histogram

namespace ConceptSpace.Similarity
open Histogram

structure Genuine (n : Nat) (a b c : List ℚ) : Prop where
  scaled : total (bins Metric.smoothing a) ≠ 0 ∧ total (bins Metric.smoothing b) ≠ 0
  symm : distance a b = distance b a
  triangle : distance a c ≤ distance a b + distance b c
  least : 0 ≤ distance a b
  most : distance a b ≤ n - 1
  zero : distance a b = 0 ↔ distribution Metric.smoothing a = distribution Metric.smoothing b
  scored : 1 + distance a b ≠ 0
  closeLeast : 1 / n ≤ closeness (distance a b)
  closeMost : closeness (distance a b) ≤ 1
  closeOne : closeness (distance a b) = 1 ↔
    distribution Metric.smoothing a = distribution Metric.smoothing b

theorem smoothingPositive : (0 : ℚ) < Metric.smoothing := by
  norm_num [Metric.smoothing]

theorem distanceWork {a : List ℚ} (filled : a ≠ []) (b : List ℚ) :
    distance a b = work (distribution Metric.smoothing a) (distribution Metric.smoothing b) := by
  rw [distance, Histogram.distance, if_neg (by simpa using filled)]

theorem closenessBounds {d most : ℚ} (least : 0 ≤ d) (within : d ≤ most - 1) :
    1 / most ≤ closeness d ∧ closeness d ≤ 1 ∧ (closeness d = 1 ↔ d = 0) := by
  have positive : 0 < 1 + d := by linarith
  refine ⟨one_div_le_one_div_of_le positive (by linarith), ?_, ?_⟩
  · rw [closeness, div_le_one positive]
    linarith
  · rw [closeness, div_eq_one_iff_eq positive.ne']
    constructor <;> intro same <;> linarith

end ConceptSpace.Similarity
