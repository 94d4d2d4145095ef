import Mathlib.Algebra.Order.Ring.Rat
import Mathlib.Tactic.NormNum
import ConceptSpace.Proofs.RankedEntries

/-! The order of a ranking under exact arithmetic.
A scan for the leader does not find the greatest score. What it finds leads all the same: whatever came
earlier is strictly lower, and whatever comes later is within the tolerance. Since every pick leads those
that are left, both hold between any two entries of a ranking. -/
namespace ConceptSpace

namespace Selection
variable {α : Type} [Add α] [LinearOrder α] {tolerance : α}

structure Leads (tolerance : α) (cs : List (Candidate α)) (b : Candidate α) : Prop where
  close : ∀ c ∈ cs, c.score ≤ b.score + tolerance
  first : ∀ c ∈ cs, c.position < b.position → c.score < b.score

variable {seen : List (Candidate α)} {b c : Candidate α}

theorem leaderKept (among : b ∈ seen) (later : ∀ d ∈ seen, d.position < c.position)
    (leads : Leads tolerance seen b) (yields : c.score ≤ b.score + tolerance) :
    Leads tolerance (seen ++ [c]) b := by
  refine ⟨List.forall_mem_append.mpr ⟨leads.close, ?_⟩, List.forall_mem_append.mpr ⟨leads.first, ?_⟩⟩
  · exact List.forall_mem_singleton.mpr yields
  · exact List.forall_mem_singleton.mpr fun ahead => absurd (later b among) ahead.asymm

variable (grows : ∀ x : α, x ≤ x + tolerance)
include grows

theorem leaderAlone (b : Candidate α) : Leads tolerance [b] b := by
  refine ⟨List.forall_mem_singleton.mpr (grows b.score), List.forall_mem_singleton.mpr ?_⟩
  exact fun ahead => absurd ahead (Nat.lt_irrefl _)

theorem leaderReplaced (leads : Leads tolerance seen b) (above : ¬ c.score ≤ b.score + tolerance) :
    Leads tolerance (seen ++ [c]) c := by
  -- The new leader is above the old one by more than the tolerance, so it is above all that was seen.
  have below : ∀ d ∈ seen, d.score < c.score :=
    fun d old => (leads.close d old).trans_lt (lt_of_not_ge above)
  refine ⟨List.forall_mem_append.mpr ⟨?_, ?_⟩, List.forall_mem_append.mpr ⟨?_, ?_⟩⟩
  · exact fun d old => (below d old).le.trans (grows c.score)
  · exact List.forall_mem_singleton.mpr (grows c.score)
  · exact fun d old _ => below d old
  · exact List.forall_mem_singleton.mpr fun ahead => absurd ahead (Nat.lt_irrefl _)

theorem leaderChallenged (among : b ∈ seen) (later : ∀ d ∈ seen, d.position < c.position)
    (leads : Leads tolerance seen b) :
    ∃ l ∈ seen ++ [c], challenge (within tolerance) (some b) c = some l ∧
      Leads tolerance (seen ++ [c]) l := by
  by_cases yields : c.score ≤ b.score + tolerance
  · have kept : challenge (within tolerance) (some b) c = some b := if_pos (decide_eq_true yields)
    exact ⟨b, List.mem_append_left _ among, kept, leaderKept among later leads yields⟩
  · have replaced : challenge (within tolerance) (some b) c = some c := if_neg (mt of_decide_eq_true yields)
    exact ⟨c, List.mem_append_right _ List.mem_cons_self, replaced, leaderReplaced grows leads yields⟩

theorem leaderScanned {rest : List (Candidate α)} (among : b ∈ seen) (ordered : Ordered (seen ++ rest))
    (leads : Leads tolerance seen b) :
    ∃ l ∈ seen ++ rest, rest.foldl (challenge (within tolerance)) (some b) = some l ∧
      Leads tolerance (seen ++ rest) l := by
  induction rest generalizing seen b with
  | nil =>
    rw [List.append_nil]
    exact ⟨b, among, rfl, leads⟩
  | cons c rest ih =>
    have later : ∀ d ∈ seen, d.position < c.position :=
      fun d old => (List.pairwise_append.mp ordered).2.2 d old c List.mem_cons_self
    rw [List.append_cons] at ordered ⊢
    obtain ⟨l, next, found, leads⟩ := leaderChallenged grows among later leads
    rw [List.foldl_cons, found]
    exact ih next ordered leads

theorem leaderLeads {cs : List (Candidate α)} (ordered : Ordered cs)
    (found : leader (within tolerance) cs = some b) : b ∈ cs ∧ Leads tolerance cs b := by
  cases cs with
  | nil => cases found
  | cons c cs =>
    obtain ⟨l, among, last, leads⟩ :=
      leaderScanned grows List.mem_cons_self ordered (leaderAlone grows c)
    cases Option.some.inj (last.symm.trans found)
    exact ⟨among, leads⟩

theorem pickOrdered {cs : List (Candidate α)} (ordered : Ordered cs) (k : Nat) :
    (pick (within tolerance) cs k).Pairwise fun p q =>
      q.score ≤ p.score + tolerance ∧ (q.position < p.position → q.score < p.score) := by
  induction k generalizing cs with
  | zero => exact .nil
  | succ k ih =>
    rw [pick]
    cases found : leader (within tolerance) cs with
    | none => exact .nil
    | some b =>
      obtain ⟨_, leads⟩ := leaderLeads grows ordered found
      refine .cons (fun q later => ?_) (ih (ordered.sublist List.filter_sublist))
      have among := (List.mem_filter.mp (pickAmong later)).1
      exact ⟨leads.close q among, leads.first q among⟩

-- The second score is within the tolerance of both others, yet it is picked last.
example : (pick (within (1e-9 : ℚ)) (candidates [0, 9e-10, 18e-10]) 3).map Candidate.position =
    [2, 0, 1] := by decide +kernel

end Selection

namespace Matcher

theorem placesKept {entries : List (LibraryEntry × Nat)} (ordered : entries.Pairwise fun a b => a.2 < b.2)
    {i j : Nat} {d e : LibraryEntry × Nat} (first : entries[i]? = some d) (second : entries[j]? = some e)
    (before : d.2 < e.2) : i < j := by
  obtain ⟨within, rfl⟩ := List.getElem?_eq_some_iff.mp first
  obtain ⟨inside, rfl⟩ := List.getElem?_eq_some_iff.mp second
  rcases Nat.lt_trichotomy i j with less | rfl | greater
  · exact less
  · exact absurd before (Nat.lt_irrefl _)
  · exact absurd before (List.pairwise_iff_getElem.mp ordered j i inside within greater).asymm

/-- No entry of a ranking has a score that is above that of an entry ranked before it by more than the
tolerance, and one that stands earlier in the library has a strictly lower score, so that equal scores
keep library order. With a score for each entry that can be compared a ranking holds every such entry with
its own score, or as many of the first ones as are asked for. What the program returns is the same selection
from the scores that it computes. -/
theorem rankedOrder (query : List Float) (library : Library) (scores : List ℚ) (limit : Nat) :
    (select (Selection.within tieTolerance) (comparable query library) scores limit).Pairwise
      (fun p q => q.score ≤ p.score + 1e-9 ∧ (q.index < p.index → q.score < p.score)) ∧
    (scores.length = (comparable query library).length →
      (select (Selection.within tieTolerance) (comparable query library) scores 0).Perm
        (List.zipWith rankedAs (comparable query library) scores) ∧
      (limit ≠ 0 → select (Selection.within tieTolerance) (comparable query library) scores limit =
        (select (Selection.within tieTolerance) (comparable query library) scores 0).take limit)) ∧
    ∀ m : Matcher, (m.ownScores query library).length = (comparable query library).length ∧
      (m.rank query library limit).matched =
        select (Selection.within tieTolerance) (comparable query library) (m.ownScores query library) limit := by
  refine ⟨?ordered, fun each => ⟨selectAll _ each, selectFront _ each⟩,
    fun m => ⟨ownScoresLength m query library, rfl⟩⟩
  have grows : ∀ x : ℚ, x ≤ x + tieTolerance := by
    intro x
    have positive : (0 : ℚ) ≤ 1e-9 := by norm_num
    exact le_add_of_nonneg_right positive
  refine (Selection.pickOrdered grows (Selection.candidatesOrdered scores) _).filterMap _ ?_
  intro c d order p here q there
  obtain ⟨e, placed, rfl⟩ := Option.map_eq_some_iff.mp here
  obtain ⟨e', placed', rfl⟩ := Option.map_eq_some_iff.mp there
  exact ⟨order.1, fun before =>
    order.2 (placesKept (comparableOrdered query library) placed' placed before)⟩

end Matcher

end ConceptSpace
