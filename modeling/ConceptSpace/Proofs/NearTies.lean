import ConceptSpace.Proofs.BestMatch
import ConceptSpace.Proofs.RankedOrder

/-! Which entry wins when scores are nearly equal.
A scan holds every score against the leader of the moment and not against the greatest score of all. So
the first entry that ties with the greatest wins exactly if it stands clear of the best match of the
entries before it. Scores that creep up by less than the tolerance can keep it from the lead. -/
namespace ConceptSpace

namespace Selection
variable {α : Type} [Add α] [LinearOrder α] {tolerance : α} {b c : Candidate α}
  {before after : List (Candidate α)}

theorem leaderStays (close : ∀ d ∈ after, d.score ≤ b.score + tolerance) :
    after.foldl (challenge (within tolerance)) (some b) = some b := by
  induction after with
  | nil => rfl
  | cons d after ih =>
    obtain ⟨here, later⟩ := List.forall_mem_cons.mp close
    rw [List.foldl_cons, challenge, within, decide_eq_true here]
    exact ih later

theorem leaderPassed (led : leader (within tolerance) before = some b)
    (near : c.score ≤ b.score + tolerance) (ordered : Ordered (before ++ c :: after)) :
    leader (within tolerance) (before ++ c :: after) ≠ some c := by
  have kept : challenge (within tolerance) (some b) c = some b := if_pos (decide_eq_true near)
  obtain ⟨_, later, ahead⟩ := List.pairwise_append.mp ordered
  obtain ⟨l, among, last⟩ := challengedFound (within tolerance) after b
  rw [leader, List.foldl_append, ← leader, led, List.foldl_cons, kept, last]
  rintro ⟨⟩
  rcases List.mem_cons.mp among with rfl | behind
  · exact Nat.lt_irrefl _ (ahead _ (leaderAmong led) _ List.mem_cons_self)
  · exact Nat.lt_irrefl _ ((List.pairwise_cons.mp later).1 _ behind)

theorem leadsIff (close : ∀ d ∈ after, d.score ≤ c.score + tolerance)
    (ordered : Ordered (before ++ c :: after)) :
    leader (within tolerance) (before ++ c :: after) = some c ↔
      ∀ b, leader (within tolerance) before = some b → b.score + tolerance < c.score := by
  constructor
  · intro leads b led
    by_contra near
    exact leaderPassed led (le_of_not_gt near) ordered leads
  · intro clear
    have taken : challenge (within tolerance) (leader (within tolerance) before) c = some c := by
      cases led : leader (within tolerance) before with
      | none => rfl
      | some b => exact if_neg (by simpa [within] using clear b led)
    rw [leader, List.foldl_append, ← leader, List.foldl_cons, taken]
    exact leaderStays close

end Selection

namespace Matcher
open Selection (within leader)

variable {query : List Float} {library : Library}

theorem comparableTake (query : List Float) (library : Library) (i : Nat) :
    comparable query (library.take i) = (comparable query library).filter (·.2 < i) := by
  have numbered : (library.take i).zipIdx = library.zipIdx.filter (·.2 < i) := by
    have front : ∀ e ∈ (library.take i).zipIdx, e.2 < i := by
      intro e listed
      have inside := List.snd_lt_of_mem_zipIdx listed
      rw [List.length_take] at inside
      omega
    have back : ∀ e ∈ (library.drop i).zipIdx (library.take i).length, ¬ e.2 < i := by
      intro e listed
      have beyond := List.le_snd_of_mem_zipIdx listed
      have inside := List.snd_lt_of_mem_zipIdx listed
      simp only [List.length_take, List.length_drop] at beyond inside
      omega
    conv_rhs => rw [← List.take_append_drop i library, List.zipIdx_append, List.filter_append]
    rw [List.filter_eq_self.mpr (by simpa using front), List.filter_eq_nil_iff.mpr (by simpa using back)]
    simp
  rw [comparable, comparable, numbered, List.filter_comm]

theorem splitPlaces {e : LibraryEntry × Nat} {before after : List (LibraryEntry × Nat)}
    (split : comparable query library = before ++ e :: after) :
    (∀ d ∈ before, d.2 < e.2) ∧ ∀ d ∈ after, e.2 < d.2 := by
  have ordered := comparableOrdered query library
  rw [split] at ordered
  obtain ⟨_, later, ahead⟩ := List.pairwise_append.mp ordered
  exact ⟨fun d early => ahead d early e List.mem_cons_self, (List.pairwise_cons.mp later).1⟩

theorem comparableFront {e : LibraryEntry × Nat} {before after : List (LibraryEntry × Nat)}
    (split : comparable query library = before ++ e :: after) :
    comparable query (library.take e.2) = before := by
  obtain ⟨ahead, behind⟩ := splitPlaces split
  have front : before.filter (·.2 < e.2) = before := by
    rw [List.filter_eq_self]
    exact fun d early => decide_eq_true (ahead d early)
  have back : (e :: after).filter (·.2 < e.2) = [] := by
    rw [List.filter_eq_nil_iff]
    intro d listed
    rcases List.mem_cons.mp listed with rfl | late
    · simp
    · simpa using (behind d late).le
  rw [comparableTake, split, List.filter_append, front, back, List.append_nil]

theorem comparableUnique {d e : LibraryEntry × Nat} (here : d ∈ comparable query library)
    (there : e ∈ comparable query library) (same : d.2 = e.2) : d = e := by
  have found := List.mem_zipIdx_iff_getElem?.mp (List.mem_filter.mp here).1
  have foundToo := List.mem_zipIdx_iff_getElem?.mp (List.mem_filter.mp there).1
  rw [same, foundToo] at found
  exact Prod.ext (Option.some.inj found).symm same

theorem placedUnique {α : Type} {score : LibraryEntry × Nat → α} {d e : LibraryEntry × Nat}
    (here : d ∈ comparable query library) (there : e ∈ comparable query library)
    (same : placed score d = placed score e) : d = e :=
  comparableUnique here there (congrArg Selection.Candidate.position same)

theorem scoredUnique {α : Type} {score : LibraryEntry × Nat → α} {d e : LibraryEntry × Nat}
    (here : d ∈ comparable query library) (there : e ∈ comparable query library)
    (same : scored score d = scored score e) : d = e :=
  comparableUnique here there (congrArg RankedEntry.index same)

theorem placedOrder {α : Type} (score : LibraryEntry × Nat → α) (query : List Float) (library : Library) :
    Selection.Ordered ((comparable query library).map (placed score)) :=
  List.pairwise_map.mpr (comparableOrdered query library)

def contenders (score : LibraryEntry × Nat → ℚ) (query : List Float) (library : Library) :
    List (RankedEntry ℚ) := (comparable query library).map (scored score)

-- No score is above this one by more than the tolerance, so it ties with the greatest.
def Tied (all : List (RankedEntry ℚ)) (p : RankedEntry ℚ) : Prop := ∀ q ∈ all, q.score ≤ p.score + 1e-9

structure FirstTied (all : List (RankedEntry ℚ)) (p : RankedEntry ℚ) : Prop where
  among : p ∈ all
  tied : Tied all p
  first : ∀ q ∈ all, Tied all q → p.index ≤ q.index

section
variable (score : LibraryEntry × Nat → ℚ)

theorem leaderTied {entries : List (LibraryEntry × Nat)} {e : LibraryEntry × Nat}
    (ordered : Selection.Ordered (entries.map (placed score)))
    (leads : leader (within tieTolerance) (entries.map (placed score)) = some (placed score e)) :
    Tied (entries.map (scored score)) (scored score e) := by
  have grows : ∀ x : ℚ, x ≤ x + tieTolerance := by
    intro x
    have positive : (0 : ℚ) ≤ 1e-9 := by norm_num
    exact le_add_of_nonneg_right positive
  have close := (Selection.leaderLeads grows ordered leads).2.close
  intro q listed
  obtain ⟨d, among, rfl⟩ := List.mem_map.mp listed
  exact close _ (List.mem_map_of_mem among)

theorem firstFound {e : LibraryEntry × Nat} (among : e ∈ comparable query library)
    (tied : Tied (contenders score query library) (scored score e)) :
    ∃ before f after, comparable query library = before ++ f :: after ∧
      FirstTied (contenders score query library) (scored score f) := by
  classical
  have some : ((comparable query library).find? fun d =>
      Tied (contenders score query library) (scored score d)).isSome = true := by
    rw [List.find?_isSome]
    exact ⟨e, among, decide_eq_true tied⟩
  obtain ⟨f, found⟩ := Option.isSome_iff_exists.mp some
  obtain ⟨tied, before, after, split, untied⟩ := List.find?_eq_some_iff_append.mp found
  refine ⟨before, f, after, split, ?_, of_decide_eq_true tied, ?_⟩
  · exact List.mem_map_of_mem (split ▸ List.mem_append_right _ List.mem_cons_self)
  · intro q listed tiedToo
    obtain ⟨d, compared, rfl⟩ := List.mem_map.mp listed
    rw [split] at compared
    rcases List.mem_append.mp compared with early | late
    · exact absurd (decide_eq_true tiedToo) (by simpa using untied d early)
    · rcases List.mem_cons.mp late with rfl | behind
      · exact le_rfl
      · exact ((splitPlaces split).2 d behind).le

theorem firstLeadsIff {e f : LibraryEntry × Nat} {before after : List (LibraryEntry × Nat)}
    (among : e ∈ comparable query library) (split : comparable query library = before ++ f :: after)
    (leads : leader (within tieTolerance) ((comparable query library).map (placed score)) =
      some (placed score e))
    (tied : Tied (contenders score query library) (scored score f)) :
    scored score e = scored score f ↔ ∀ lead,
      bestBy (within tieTolerance) score (comparable query (library.take f.2)) = some lead →
        lead.score + 1e-9 < score f := by
  have here : f ∈ comparable query library :=
    split ▸ List.mem_append_right _ List.mem_cons_self
  have won : scored score e = scored score f ↔ placed score e = placed score f := by
    constructor
    · intro same
      rw [scoredUnique among here same]
    · intro same
      rw [placedUnique among here same]
  have ordered := placedOrder score query library
  rw [split, List.map_append, List.map_cons] at leads ordered
  have close : ∀ d ∈ after.map (placed score), d.score ≤ (placed score f).score + tieTolerance := by
    intro d listed
    obtain ⟨g, later, rfl⟩ := List.mem_map.mp listed
    refine tied (scored score g) (List.mem_map_of_mem ?_)
    rw [split]
    exact List.mem_append_right _ (List.mem_cons_of_mem _ later)
  rw [won, ← Option.some_inj, ← leads, Selection.leadsIff close ordered, leaderBest,
    comparableFront split]
  simp [tieTolerance, placed]

/-- What wins is tied with the greatest score. It is the first entry that is so exactly if that one's score
is above the score of the best match before it by more than the tolerance, as it is if it is above every
score before it by more than the tolerance. -/
theorem firstTiedIff (query : List Float) (library : Library)
    (some : ∃ entry ∈ library, Fits query entry) :
    ∃ best first, bestBy (within tieTolerance) score (comparable query library) = .some best ∧
      best ∈ contenders score query library ∧ Tied (contenders score query library) best ∧
      FirstTied (contenders score query library) first ∧
      (best = first ↔ ∀ lead,
        bestBy (within tieTolerance) score (comparable query (library.take first.index)) = .some lead →
          lead.score + 1e-9 < first.score) ∧
      ((∀ p ∈ contenders score query library, p.index < first.index → p.score + 1e-9 < first.score) →
        best = first) := by
  obtain ⟨e, among, leads, best⟩ :=
    bestLeads (within tieTolerance) score (comparableSome.mpr some)
  have tied := leaderTied score (placedOrder score query library) leads
  obtain ⟨before, f, after, split, first⟩ := firstFound score among tied
  have clears := firstLeadsIff score among split leads first.tied
  refine ⟨_, _, best, List.mem_map_of_mem among, tied, first, clears, ?_⟩
  intro apart
  refine clears.mpr fun lead led => ?_
  rw [comparableFront split] at led
  obtain ⟨g, early, rfl⟩ := bestAmong led
  refine apart _ (List.mem_map_of_mem (split ▸ List.mem_append_left _ early)) ?_
  exact (splitPlaces split).1 g early

end

-- Each entry is closer to the query than the one before it, by nine tenths of the tolerance.
def creeping : Library :=
  [⟨"dawn", [1, 6e-5], none⟩, ⟨"noon", [1, 42e-6], none⟩, ⟨"dusk", [1, 0], none⟩]

def creepingScore (e : LibraryEntry × Nat) : ℚ := 9e-10 * e.2

theorem creepingFits : ∃ entry ∈ creeping, Fits [1, 0] entry :=
  ⟨_, List.mem_cons_self, by decide +kernel⟩

theorem creepingTied : (∃ entry ∈ creeping, Fits [1, 0] entry) ∧ ∃ best first,
    bestBy (within tieTolerance) creepingScore (comparable [1, 0] creeping) = some best ∧
      best ∈ contenders creepingScore [1, 0] creeping ∧
      Tied (contenders creepingScore [1, 0] creeping) best ∧
      FirstTied (contenders creepingScore [1, 0] creeping) first ∧
      (best = first ↔ ∀ lead, bestBy (within tieTolerance) creepingScore
        (comparable [1, 0] (creeping.take first.index)) = some lead → lead.score + 1e-9 < first.score) ∧
      ((∀ p ∈ contenders creepingScore [1, 0] creeping, p.index < first.index →
        p.score + 1e-9 < first.score) → best = first) :=
  ⟨creepingFits, firstTiedIff creepingScore [1, 0] creeping creepingFits⟩

-- The leader of the moment is the first entry when the second one is looked at.
theorem creepingMissed :
    (∃ first, FirstTied (contenders creepingScore [1, 0] creeping) first ∧ first.id = "noon" ∧
      (bestBy (within tieTolerance) creepingScore (comparable [1, 0] creeping)).map RankedEntry.id =
        some "dusk") ∧
    (∀ entry ∈ creeping, Metric.cosine.score [1, 0] entry.vector ≤
      Metric.cosine.score [1, 0] [1, 42e-6] + 1e-9) ∧
    Metric.cosine.score [1, 0] [1, 6e-5] + 1e-9 < Metric.cosine.score [1, 0] [1, 0] ∧
    (rank ⟨.cosine, none, 1000⟩ [1, 0] creeping 1).matched.map RankedEntry.id = ["dusk"] := by
  refine ⟨⟨scored creepingScore (⟨"noon", [1, 42e-6], none⟩, 1), ⟨?_, ?_, ?_⟩, rfl, ?_⟩, ?_, ?_, ?_⟩
  · exact List.mem_cons_of_mem _ List.mem_cons_self
  · unfold Tied
    decide +kernel
  · unfold Tied
    decide +kernel
  all_goals decide +kernel

end Matcher

end ConceptSpace
