import Mathlib.Data.List.Nodup
import Mathlib.Data.List.Perm.Basic
import ConceptSpace.Proofs.Places
import ConceptSpace.Similarity.Ranking

/-! A ranking is made of the entries that can be compared, each of them once.
Every round of the selection takes one candidate out of those left, whatever the test answers, so all
rounds together arrange the candidates, and fewer rounds give a front of the same arrangement. -/
namespace ConceptSpace

namespace Selection
variable {α : Type} (yields : α → α → Bool)

theorem challengedFound (cs : List (Candidate α)) (a : Candidate α) :
    ∃ b ∈ a :: cs, cs.foldl (challenge yields) (some a) = some b := by
  induction cs generalizing a with
  | nil => exact ⟨a, List.mem_cons_self, rfl⟩
  | cons c cs ih =>
    rw [List.foldl_cons, challenge]
    split
    · obtain ⟨b, among, found⟩ := ih a
      refine ⟨b, ?_, found⟩
      rcases List.mem_cons.mp among with rfl | later
      · exact List.mem_cons_self
      · exact List.mem_cons_of_mem _ (List.mem_cons_of_mem _ later)
    · obtain ⟨b, among, found⟩ := ih c
      exact ⟨b, List.mem_cons_of_mem _ among, found⟩

theorem leaderFound {cs : List (Candidate α)} (some : cs ≠ []) : ∃ b ∈ cs, leader yields cs = .some b := by
  cases cs with
  | nil => contradiction
  | cons c cs => exact challengedFound yields cs c

theorem pickStep {cs : List (Candidate α)} (some : cs ≠ []) (k : Nat) : ∃ b ∈ cs,
    pick yields cs (k + 1) = b :: pick yields (cs.filter (·.position != b.position)) k := by
  obtain ⟨b, among, leads⟩ := leaderFound yields some
  exact ⟨b, among, by rw [pick, leads]⟩

variable {yields} in
theorem pickAmong {cs : List (Candidate α)} {k : Nat} {c : Candidate α}
    (picked : c ∈ pick yields cs k) : c ∈ cs := by
  induction k generalizing cs with
  | zero => cases picked
  | succ k ih =>
    by_cases none : cs = []
    · rw [none] at picked
      cases picked
    · obtain ⟨b, among, step⟩ := pickStep yields none k
      rw [step] at picked
      rcases List.mem_cons.mp picked with rfl | later
      · exact among
      · exact (List.mem_filter.mp (ih later)).1

def Ordered (cs : List (Candidate α)) : Prop := cs.Pairwise fun a b => a.position < b.position

theorem candidatesOrdered (scores : List α) : Ordered (candidates scores) :=
  List.pairwise_map.mpr (zipIdxOrdered scores)

theorem candidatePlaced {scores : List α} {c : Candidate α} (listed : c ∈ candidates scores) :
    c.position < scores.length := by
  obtain ⟨placed, among, rfl⟩ := List.mem_map.mp listed
  simpa using List.snd_lt_of_mem_zipIdx among

theorem takenPerm {cs : List (Candidate α)} (ordered : Ordered cs) {b : Candidate α} (among : b ∈ cs) :
    (b :: cs.filter (·.position != b.position)).Perm cs := by
  induction cs with
  | nil => cases among
  | cons c cs ih =>
    obtain ⟨ahead, ordered⟩ := List.pairwise_cons.mp ordered
    rcases List.mem_cons.mp among with rfl | later
    · have others : cs.filter (·.position != b.position) = cs := by
        rw [List.filter_eq_self]
        intro d later
        simpa using Nat.ne_of_gt (ahead d later)
      rw [List.filter_cons_of_neg (by simp), others]
    · rw [List.filter_cons_of_pos (by simpa using Nat.ne_of_lt (ahead b later))]
      exact (List.Perm.swap c b _).trans ((ih ordered later).cons c)

theorem pickAll {cs : List (Candidate α)} (ordered : Ordered cs) :
    (pick yields cs cs.length).Perm cs := by
  -- Each pick leaves one candidate fewer, so the induction is on how many there are.
  induction size : cs.length generalizing cs with
  | zero => rw [List.length_eq_zero_iff.mp size, pick]
  | succ n ih =>
    obtain ⟨b, among, step⟩ := pickStep yields (List.ne_nil_of_length_eq_add_one size) n
    have taken := takenPerm ordered among
    have left : (cs.filter (·.position != b.position)).length = n := by
      have whole := taken.length_eq
      rw [List.length_cons, size] at whole
      omega
    rw [step]
    exact ((ih (ordered.sublist List.filter_sublist) left).cons b).trans taken

theorem pickFront {cs : List (Candidate α)} {k n : Nat} (fewer : k ≤ n) :
    pick yields cs k = (pick yields cs n).take k := by
  induction k generalizing cs n with
  | zero => rfl
  | succ k ih =>
    obtain ⟨n, rfl⟩ := Nat.exists_eq_add_one_of_ne_zero (Nat.ne_of_gt (Nat.zero_lt_of_lt fewer))
    rw [pick, pick]
    cases leader yields cs with
    | none => rfl
    | some b => exact congrArg (b :: ·) (ih (Nat.le_of_succ_le_succ fewer))

end Selection

namespace Matcher
open Selection (candidates pick)

theorem filterMapFront {β γ : Type} {f : β → Option γ} {l : List β}
    (total : ∀ a ∈ l, ∃ b, f a = some b) (k : Nat) :
    (l.take k).filterMap f = (l.filterMap f).take k := by
  induction l generalizing k with
  | nil => simp
  | cons a l ih =>
    obtain ⟨b, found⟩ := total a List.mem_cons_self
    cases k with
    | zero => rfl
    | succ k =>
      rw [List.take_succ_cons, List.filterMap_cons_some found, List.filterMap_cons_some found,
        List.take_succ_cons, ih fun a later => total a (List.mem_cons_of_mem _ later)]

def rankedAs {α : Type} (e : LibraryEntry × Nat) (score : α) : RankedEntry α := ⟨e.1.id, score, e.2⟩

section
variable {α : Type} (yields : α → α → Bool) {entries : List (LibraryEntry × Nat)} {scores : List α}

def rankedAt (entries : List (LibraryEntry × Nat)) (c : Selection.Candidate α) : Option (RankedEntry α) :=
  entries[c.position]?.map fun e => rankedAs e c.score

theorem candidatesLength : (candidates scores).length = scores.length := by
  simp [candidates]

variable (each : scores.length = entries.length)
include each

theorem rankedCandidates :
    (candidates scores).filterMap (rankedAt entries) = List.zipWith rankedAs entries scores := by
  have found : (candidates scores).map (rankedAt entries) =
      (List.zipWith rankedAs entries scores).map some := by
    refine List.ext_getElem (by simp [candidates, each]) fun i here there => ?_
    have placed : i < entries.length := by simpa [candidates, each] using here
    simp [candidates, rankedAt, List.getElem?_eq_getElem placed]
  calc (candidates scores).filterMap (rankedAt entries)
      = ((candidates scores).map (rankedAt entries)).filterMap id := by rw [List.filterMap_map]; rfl
    _ = List.zipWith rankedAs entries scores := by rw [found, List.filterMap_map]; exact List.filterMap_some

theorem picksAll : (pick yields (candidates scores) entries.length).Perm (candidates scores) := by
  have all := Selection.pickAll yields (Selection.candidatesOrdered scores)
  rwa [candidatesLength, each] at all

theorem selectAll : (select yields entries scores 0).Perm (List.zipWith rankedAs entries scores) := by
  have all := (picksAll yields each).filterMap (rankedAt entries)
  rw [rankedCandidates each] at all
  exact all

theorem selectFront {limit : Nat} (limited : limit ≠ 0) :
    select yields entries scores limit = (select yields entries scores 0).take limit := by
  have all := picksAll yields each
  have total : ∀ c ∈ pick yields (candidates scores) entries.length,
      ∃ e, rankedAt entries c = some e := by
    intro c picked
    have placed := Selection.candidatePlaced (all.mem_iff.mp picked)
    rw [each] at placed
    exact ⟨_, by rw [rankedAt, List.getElem?_eq_getElem placed]; rfl⟩
  have front : pick yields (candidates scores) (min limit entries.length) =
      (pick yields (candidates scores) entries.length).take limit := by
    rw [Selection.pickFront yields (Nat.min_le_right limit entries.length), List.take_eq_take_iff,
      all.length_eq, candidatesLength, each]
    omega
  have count : (if limit == 0 then entries.length else min limit entries.length) =
      min limit entries.length := if_neg (by simpa using limited)
  calc select yields entries scores limit
      = (pick yields (candidates scores) (min limit entries.length)).filterMap
          (rankedAt entries) := by rw [select, count]; rfl
    _ = (select yields entries scores 0).take limit := by
        rw [front, filterMapFront total]
        rfl

end

variable (m : Matcher) (yields : Float → Float → Bool) (query : List Float) (library : Library)

theorem scoresEach (entries : List LibraryEntry) :
    m.scores query entries = entries.map (m.score (m.weighted query)) := by
  rw [scores]
  split
  · rw [List.map_map]
    rfl
  · rfl

theorem comparableEntries :
    (comparable query library).map Prod.fst = library.filter (usable query) := by
  have placed := List.filter_map (f := Prod.fst) (p := usable query) (l := library.zipIdx)
  rw [List.zipIdx_map_fst] at placed
  exact placed.symm

theorem comparableOrdered : (comparable query library).Pairwise fun a b => a.2 < b.2 :=
  (zipIdxOrdered library).sublist List.filter_sublist

def ownScores : List Float := m.scores query ((comparable query library).map Prod.fst)

theorem ownScoresEach : m.ownScores query library =
    (comparable query library).map fun e => m.score (m.weighted query) e.1 := by
  rw [ownScores, scoresEach, List.map_map]
  rfl

theorem ownScoresLength : (m.ownScores query library).length = (comparable query library).length := by
  rw [ownScoresEach, List.length_map]

theorem matchedAll : (m.rankBy yields query library 0).matched.Perm
    ((comparable query library).map fun e => rankedAs e (m.score (m.weighted query) e.1)) := by
  have own : List.zipWith rankedAs (comparable query library) (m.ownScores query library) =
      (comparable query library).map fun e => rankedAs e (m.score (m.weighted query) e.1) := by
    rw [ownScoresEach, List.zipWith_map_right, List.zipWith_self]
  rw [← own]
  exact selectAll yields (ownScoresLength m query library)

theorem matchedFront {limit : Nat} (limited : limit ≠ 0) :
    (m.rankBy yields query library limit).matched =
      (m.rankBy yields query library 0).matched.take limit :=
  selectFront yields (ownScoresLength m query library) limited

theorem matchedSublist (limit : Nat) : (m.rankBy yields query library limit).matched.Sublist
    (m.rankBy yields query library 0).matched := by
  by_cases unlimited : limit = 0
  · rw [unlimited]
  · rw [matchedFront m yields query library unlimited]
    exact List.take_sublist _ _

theorem matchedLength (limit : Nat) : (m.rankBy yields query library limit).matched.length =
    if limit = 0 then (comparable query library).length
    else min limit (comparable query library).length := by
  have whole := (matchedAll m yields query library).length_eq
  rw [List.length_map] at whole
  by_cases unlimited : limit = 0
  · rw [if_pos unlimited, unlimited, whole]
  · rw [if_neg unlimited, matchedFront m yields query library unlimited, List.length_take, whole]

def Fits (query : List Float) (entry : LibraryEntry) : Prop :=
  entry.vector.length = query.length ∧ ∀ x ∈ entry.vector, x.isFinite = true

instance (query : List Float) (entry : LibraryEntry) : Decidable (Fits query entry) :=
  inferInstanceAs (Decidable (_ ∧ _))

theorem usableIff {query : List Float} {entry : LibraryEntry} :
    usable query entry = true ↔ Fits query entry := by
  simp [usable, Fits]

theorem comparableLength :
    (comparable query library).length = library.countP fun entry => decide (Fits query entry) := by
  have same : usable query = fun entry => decide (Fits query entry) := by
    funext entry
    exact Bool.eq_iff_iff.mpr (usableIff.trans decide_eq_true_iff.symm)
  rw [← List.length_map (f := Prod.fst), comparableEntries, same, List.countP_eq_length_filter]

def mismatch? (query : List Float) (entry : LibraryEntry) : Option Fault :=
  if usable query entry then none
  else some (.shapeMismatch entry.id query.length entry.vector.length)

theorem mismatchIff {query : List Float} {entry : LibraryEntry} :
    mismatch? query entry ≠ none ↔ ¬ Fits query entry := by
  rw [← usableIff]
  simp [mismatch?]

theorem mismatchTold {query : List Float} {entry : LibraryEntry} {fault : Fault}
    (told : mismatch? query entry = some fault) :
    fault = .shapeMismatch entry.id query.length entry.vector.length := by
  unfold mismatch? at told
  split at told
  · cases told
  · exact (Option.some.inj told).symm

theorem mismatchesEach : mismatches query library = library.filterMap (mismatch? query) := by
  rw [mismatches, ← List.filterMap_eq_map', List.filterMap_filter]
  refine List.filterMap_congr fun entry _ => ?_
  unfold mismatch?
  cases usable query entry with
  | true => rfl
  | false => rfl

theorem mismatchesReported : Reports (· < ·)
    (fun i : Nat => ∃ entry, library[i]? = some entry ∧ ¬ Fits query entry)
    (fun i fault => ∃ entry, library[i]? = some entry ∧
      fault = .shapeMismatch entry.id query.length entry.vector.length)
    (mismatches query library) := by
  rw [mismatchesEach]
  refine (listReports library (mismatch? query)).congr ?_ ?_
  · exact fun i => exists_congr fun entry => and_congr_right fun _ => mismatchIff
  · intro i fault told
    obtain ⟨entry, here, said⟩ := told
    exact ⟨entry, here, mismatchTold said⟩

structure Complete (limit : Nat) (ranking : Ranking) : Prop where
  count : ranking.matched.length =
    if limit = 0 then library.countP fun entry => decide (Fits query entry)
    else min limit (library.countP fun entry => decide (Fits query entry))
  apart : (ranking.matched.map RankedEntry.index).Nodup
  own : ∀ p ∈ ranking.matched, ∃ entry, library[p.index]? = some entry ∧ Fits query entry ∧
    p.id = entry.id ∧ p.score = m.metric.score (m.weighted query) (m.weighted entry.vector)
  reported : Reports (· < ·) (fun i : Nat => ∃ entry, library[i]? = some entry ∧ ¬ Fits query entry)
    (fun i fault => ∃ entry, library[i]? = some entry ∧
      fault = .shapeMismatch entry.id query.length entry.vector.length) ranking.warnings

theorem rankedApart (limit : Nat) :
    ((m.rankBy yields query library limit).matched.map RankedEntry.index).Nodup := by
  have indices : ((comparable query library).map fun e => rankedAs e (m.score (m.weighted query) e.1)).map
        RankedEntry.index =
      (comparable query library).map Prod.snd := by
    rw [List.map_map]
    rfl
  have apart : ((m.rankBy yields query library 0).matched.map RankedEntry.index).Nodup := by
    rw [((matchedAll m yields query library).map RankedEntry.index).nodup_iff, indices]
    exact (List.pairwise_map.mpr (comparableOrdered query library)).imp Nat.ne_of_lt
  exact apart.sublist ((matchedSublist m yields query library limit).map _)

theorem rankedComplete (limit : Nat) :
    Complete m query library limit (m.rankBy yields query library limit) := by
  refine ⟨?_, rankedApart m yields query library limit, ?_, mismatchesReported query library⟩
  · rw [matchedLength, comparableLength]
  · intro p listed
    have among := (matchedAll m yields query library).mem_iff.mp
      ((matchedSublist m yields query library limit).subset listed)
    obtain ⟨e, compared, rfl⟩ := List.mem_map.mp among
    obtain ⟨placed, fits⟩ := List.mem_filter.mp compared
    exact ⟨e.1, List.mem_zipIdx_iff_getElem?.mp placed, usableIff.mp fits, rfl, rfl⟩

/-- Whatever the test answers for the scores, a ranking takes as many of the entries that can be compared
as are asked for, each once and with its own score, and reports all others in library order. Asking for
fewer takes the first ones, and it makes no difference whether the scores are computed side by side. -/
theorem rankingComplete (limit : Nat) :
    Complete m query library limit (m.rankBy yields query library limit) ∧
    (limit ≠ 0 → (m.rankBy yields query library limit).matched =
      (m.rankBy yields query library 0).matched.take limit) ∧
    (∀ threshold, { m with parallelThreshold := threshold }.rankBy yields query library limit =
      m.rankBy yields query library limit) ∧
    m.rank query library limit = m.rankBy (Selection.within tieTolerance) query library limit := by
  refine ⟨rankedComplete m yields query library limit, matchedFront m yields query library, ?_, rfl⟩
  intro threshold
  have scored : ({ m with parallelThreshold := threshold } : Matcher).scores query =
      m.scores query := by
    funext entries
    rw [scoresEach, scoresEach]
    rfl
  rw [rankBy, rankBy, scored]

end Matcher

end ConceptSpace
