import ConceptSpace.Proofs.RankedEntries

/-! When a library has a best match: whenever it has an entry that can be compared, whatever the scores
are, numbers or not. The best match is the leader of those entries. -/
namespace ConceptSpace

namespace Selection
variable {α β : Type} {yields : α → α → Bool}

theorem leaderAmong {cs : List (Candidate α)} {b : Candidate α} (led : leader yields cs = some b) :
    b ∈ cs := by
  have some : cs ≠ [] := by
    rintro rfl
    cases led
  obtain ⟨l, among, found⟩ := leaderFound yields some
  cases Option.some.inj (led.symm.trans found)
  exact among

variable (yields) in
-- A scan asks nothing but which scores yield, however these and the places are told.
theorem scansAgree {γ : Type} (yields' : γ → γ → Bool) (f : β → Candidate α) (g : β → Candidate γ)
    (b : β) (xs : List β) (same : ∀ x ∈ b :: xs, ∀ y ∈ b :: xs,
      yields (f x).score (f y).score = yields' (g x).score (g y).score) :
    ∃ x ∈ b :: xs, (xs.map f).foldl (challenge yields) (some (f b)) = some (f x) ∧
      (xs.map g).foldl (challenge yields') (some (g b)) = some (g x) := by
  induction xs generalizing b with
  | nil => exact ⟨b, List.mem_cons_self, rfl, rfl⟩
  | cons y ys ih =>
    have leads (l : β) (among : ∀ x ∈ l :: ys, x ∈ b :: y :: ys) : ∃ x ∈ b :: y :: ys,
        (ys.map f).foldl (challenge yields) (some (f l)) = some (f x) ∧
          (ys.map g).foldl (challenge yields') (some (g l)) = some (g x) := by
      obtain ⟨x, last, left, right⟩ := ih l fun x listed y listedToo =>
        same x (among x listed) y (among y listedToo)
      exact ⟨x, among x last, left, right⟩
    simp only [List.map_cons, List.foldl_cons, challenge,
      same y (List.mem_cons_of_mem _ List.mem_cons_self) b List.mem_cons_self]
    cases yields' (g y).score (g b).score with
    | false => exact leads y fun x listed => List.mem_cons_of_mem _ listed
    | true => exact leads b (by simp +contextual [or_imp])

end Selection

namespace Matcher
open Selection (candidates leader pick)

section
variable {α : Type} (yields : α → α → Bool) (score : LibraryEntry × Nat → α)

def placed (e : LibraryEntry × Nat) : Selection.Candidate α := ⟨e.2, score e⟩

def scored (e : LibraryEntry × Nat) : RankedEntry α := rankedAs e (score e)

-- The best match among some entries under any scores.
def bestBy (entries : List (LibraryEntry × Nat)) : Option (RankedEntry α) :=
  (select yields entries (entries.map score) 1).head?

theorem selectOne {entries : List (LibraryEntry × Nat)} (some : entries ≠ []) :
    ∃ e ∈ entries, leader yields (entries.map (placed score)) = .some (placed score e) ∧
      select yields entries (entries.map score) 1 = [scored score e] := by
  obtain ⟨first, rest, numbered⟩ := List.exists_cons_of_ne_nil (mt List.zipIdx_eq_nil_iff.mp some)
  obtain ⟨e, among, ahead, leads⟩ := Selection.scansAgree yields yields (fun e => ⟨e.2, score e.1⟩)
    (placed score ∘ Prod.fst) first rest fun _ _ _ _ => rfl
  rw [← numbered] at among
  have inside := List.mem_zipIdx_iff_getElem?.mp among
  have counted : leader yields (candidates (entries.map score)) = .some ⟨e.2, score e.1⟩ := by
    rw [candidates, List.zipIdx_map, List.map_map, numbered]
    exact ahead
  refine ⟨e.1, List.mem_of_getElem? inside, ?_, ?_⟩
  · rw [← List.zipIdx_map_fst 0 entries, List.map_map, numbered]
    exact leads
  · have one : min 1 entries.length = 0 + 1 := Nat.min_eq_left (List.length_pos_iff.mpr some)
    rw [select, if_neg (by decide), one, pick, counted]
    simp [pick, inside, scored, rankedAs]

theorem bestLeads {entries : List (LibraryEntry × Nat)} (some : entries ≠ []) :
    ∃ e ∈ entries, leader yields (entries.map (placed score)) = .some (placed score e) ∧
      bestBy yields score entries = .some (scored score e) := by
  obtain ⟨e, among, leads, selected⟩ := selectOne yields score some
  exact ⟨e, among, leads, by rw [bestBy, selected, List.head?_cons]⟩

theorem leaderBest (entries : List (LibraryEntry × Nat)) :
    leader yields (entries.map (placed score)) =
      (bestBy yields score entries).map fun p => ⟨p.index, p.score⟩ := by
  by_cases none : entries = []
  · subst none
    rfl
  · obtain ⟨e, _, leads, best⟩ := bestLeads yields score none
    rw [leads, best]
    rfl

variable {yields score} in
theorem bestAmong {entries : List (LibraryEntry × Nat)} {p : RankedEntry α}
    (best : bestBy yields score entries = some p) : ∃ e ∈ entries, scored score e = p := by
  by_cases none : entries = []
  · subst none
    cases best
  · obtain ⟨e, among, _, found⟩ := bestLeads yields score none
    exact ⟨e, among, Option.some.inj (found.symm.trans best)⟩

end

variable {query : List Float} {library : Library}

theorem comparableNone : comparable query library = [] ↔ ∀ entry ∈ library, usable query entry = false := by
  rw [← List.map_eq_nil_iff (f := Prod.fst), comparableEntries, List.filter_eq_nil_iff]
  simp

theorem comparableSome : comparable query library ≠ [] ↔ ∃ entry ∈ library, Fits query entry := by
  rw [Ne, comparableNone]
  simp [← usableIff]

theorem rankedBest (m : Matcher) : (m.rank query library 1).matched.head? =
    bestBy (Selection.within tieTolerance) (fun e => m.score (m.weighted query) e.1)
      (comparable query library) := by
  rw [bestBy, ← ownScoresEach]
  rfl

theorem bestNone (m : Matcher) (none : comparable query library = []) :
    (m.rank query library 1).best = .error .emptyLibrary := by
  rw [rank, rankBy, none]
  rfl

theorem bestSome (m : Matcher) (some : comparable query library ≠ []) :
    ∃ best, (m.rank query library 1).best = .ok best := by
  obtain ⟨_, _, _, selected⟩ := selectOne (Selection.within tieTolerance)
    (fun e => m.score (m.weighted query) e.1) some
  rw [← ownScoresEach] at selected
  exact ⟨_, by rw [rank, Ranking.best, rankBy, ← ownScores, selected]⟩

end Matcher

end ConceptSpace
