import Mathlib.Data.List.DropRight
import ConceptSpace.Proofs.NearTies
import ConceptSpace.Proofs.ValueOrder

/-! Scores that are no numbers.
Such a score compares with none. It takes the lead from any other and loses it to the next one, so a scan
begins anew behind it: the best match is that of the entries after the last score that is no number, and
it is no number itself if that score is the last one. -/
namespace ConceptSpace

inductive PartialScore where
  | undefined
  | number (x : ℚ)
  deriving DecidableEq, Repr

namespace PartialScore

def add : PartialScore → PartialScore → PartialScore
  | number x, number y => number (x + y)
  | _, _ => undefined

def atMost : PartialScore → PartialScore → Bool
  | number x, number y => x ≤ y
  | _, _ => false

instance : Add PartialScore := ⟨add⟩

instance : LE PartialScore := ⟨fun x y => x.atMost y = true⟩

instance : DecidableLE PartialScore := fun x y => inferInstanceAs (Decidable (x.atMost y = true))

instance : OfScientific PartialScore := ⟨fun mantissa negative exponent =>
  number (OfScientific.ofScientific mantissa negative exponent)⟩

def value : PartialScore → ℚ
  | undefined => 0
  | number x => x

theorem numberValue {x : PartialScore} (defined : x ≠ undefined) : x = number x.value := by
  cases x with
  | undefined => contradiction
  | number x => rfl

theorem withinNumbers {x y : PartialScore} (here : x ≠ undefined) (there : y ≠ undefined) :
    Selection.within tieTolerance x y = Selection.within tieTolerance x.value y.value := by
  rw [numberValue here, numberValue there]
  exact Bool.decide_eq_true

theorem withinUndefined (t x : PartialScore) :
    Selection.within t undefined x = false ∧ Selection.within t x undefined = false := by
  have sum : undefined + t = undefined := by cases t <;> rfl
  have never : ∀ y, (undefined.atMost y = false) ∧ y.atMost undefined = false := by
    intro y
    cases y <;> exact ⟨rfl, rfl⟩
  refine ⟨decide_eq_false (Bool.eq_false_iff.mp (never _).1), decide_eq_false ?_⟩
  rw [sum]
  exact Bool.eq_false_iff.mp (never x).2

end PartialScore

namespace Selection
variable {α : Type} {yields : α → α → Bool} {u l b : Candidate α}

theorem leaderRestarts (blind : ∀ x, yields u.score x = false ∧ yields x u.score = false)
    (before after : List (Candidate α)) :
    leader yields (before ++ u :: after) = (leader yields after).or (some u) := by
  have taken : challenge yields (leader yields before) u = some u := by
    cases leader yields before with
    | none => rfl
    | some b => exact if_neg (by simp [blind])
  rw [leader, List.foldl_append, ← leader, List.foldl_cons, taken]
  cases after with
  | nil => rfl
  | cons c after =>
    have lost : challenge yields (some u) c = some c := if_neg (by simp [blind])
    obtain ⟨b, _, found⟩ := challengedFound yields after c
    have led : leader yields (c :: after) = some b := found
    rw [List.foldl_cons, lost, found, led]
    rfl

theorem leaderUndefinedIff {undefined : α → Prop}
    (defined : ∀ x y, yields x y = true → ¬ undefined x ∧ ¬ undefined y) {cs : List (Candidate α)}
    (led : leader yields (cs ++ [l]) = some b) : undefined b.score ↔ undefined l.score := by
  have last : leader yields (cs ++ [l]) = challenge yields (leader yields cs) l :=
    List.foldl_append
  rw [last] at led
  cases before : leader yields cs with
  | none =>
    rw [before] at led
    cases led
    exact Iff.rfl
  | some c =>
    rw [before, challenge] at led
    split at led
    · rename_i kept
      cases led
      exact iff_of_false (defined _ _ kept).2 (defined _ _ kept).1
    · cases led
      exact Iff.rfl

end Selection

namespace Matcher
open Selection (within leader)

variable {query : List Float} {library : Library}

theorem bestRestarts {α : Type} {yields : α → α → Bool} {score : LibraryEntry × Nat → α}
    {before after : List (LibraryEntry × Nat)} {u : LibraryEntry × Nat}
    (split : comparable query library = before ++ u :: after)
    (blind : ∀ x, yields (score u) x = false ∧ yields x (score u) = false) :
    bestBy yields score (comparable query library) =
      (bestBy yields score after).or (some (scored score u)) := by
  have restarts := Selection.leaderRestarts (u := placed score u) blind (before.map (placed score))
    (after.map (placed score))
  have among : ∀ d ∈ u :: after, d ∈ comparable query library :=
    fun d late => split ▸ List.mem_append_right _ late
  obtain ⟨e, listed, leads, best⟩ := bestLeads yields score (List.ne_nil_of_mem (among u List.mem_cons_self))
  rw [← List.map_cons, ← List.map_append, ← split, leads] at restarts
  rw [best]
  by_cases none : after = []
  · subst none
    rw [placedUnique listed (among u List.mem_cons_self) (Option.some.inj restarts)]
    rfl
  · obtain ⟨g, late, ahead, found⟩ := bestLeads yields score none
    rw [ahead] at restarts
    rw [found, placedUnique listed (among g (List.mem_cons_of_mem _ late)) (Option.some.inj restarts)]
    rfl

section
variable (score : LibraryEntry × Nat → PartialScore)

-- A number that no other number is above by more than the tolerance.
def Unbeaten (entries : List (LibraryEntry × Nat)) (p : RankedEntry PartialScore) : Prop :=
  ∃ x, p.score = .number x ∧ ∀ e ∈ entries, ∀ y, score e = .number y → y ≤ x + 1e-9

def untilUndefined (entries : List (LibraryEntry × Nat)) : List (LibraryEntry × Nat) :=
  entries.rdropWhile fun e => score e ≠ .undefined

def sinceUndefined (entries : List (LibraryEntry × Nat)) : List (LibraryEntry × Nat) :=
  entries.rtakeWhile fun e => score e ≠ .undefined

theorem undefinedSplit (entries : List (LibraryEntry × Nat)) :
    entries = untilUndefined score entries ++ sinceUndefined score entries :=
  List.rdropWhile_append_rtakeWhile.symm

variable {score}

theorem sinceDefined {entries : List (LibraryEntry × Nat)} {e : LibraryEntry × Nat}
    (late : e ∈ sinceUndefined score entries) : score e ≠ .undefined := by
  simpa using List.mem_rtakeWhile_imp late

theorem untilLast {entries : List (LibraryEntry × Nat)} {u : LibraryEntry × Nat}
    (last : (untilUndefined score entries).getLast? = some u) : score u = .undefined := by
  have some : untilUndefined score entries ≠ [] := by
    rintro none
    rw [none] at last
    cases last
  rw [List.getLast?_eq_some_getLast some] at last
  cases last
  exact of_not_not fun defined => List.rdropWhile_last_not _ _ some (decide_eq_true defined)

theorem numbersUnbeaten {entries : List (LibraryEntry × Nat)} {p : RankedEntry PartialScore}
    (ordered : entries.Pairwise fun d e => d.2 < e.2) (defined : ∀ e ∈ entries, score e ≠ .undefined)
    (best : bestBy (within tieTolerance) score entries = some p) : Unbeaten score entries p := by
  cases entries with
  | nil => cases best
  | cons first rest =>
    -- Where all scores are numbers, the scan is the one over their values.
    obtain ⟨e, among, ahead, leads⟩ := Selection.scansAgree (within tieTolerance)
      (within tieTolerance) (placed score) (placed fun e => (score e).value) first rest
      fun d here e there => PartialScore.withinNumbers (defined d here) (defined e there)
    have tied := leaderTied (fun e => (score e).value) (List.pairwise_map.mpr ordered) leads
    obtain ⟨g, _, led, found⟩ := bestLeads (within tieTolerance) score (List.cons_ne_nil first rest)
    have same : score g = score e :=
      congrArg Selection.Candidate.score (Option.some.inj (led.symm.trans ahead))
    cases Option.some.inj (found.symm.trans best)
    refine ⟨(score e).value, same.trans (PartialScore.numberValue (defined e among)), ?_⟩
    intro d listed y number
    have close := tied _ (List.mem_map_of_mem listed)
    rwa [scored, number] at close

theorem bestSince (score : LibraryEntry × Nat → PartialScore) (query : List Float) (library : Library) :
    bestBy (within tieTolerance) score (comparable query library) =
      (bestBy (within tieTolerance) score (sinceUndefined score (comparable query library))).or
        ((untilUndefined score (comparable query library)).getLast?.map (scored score)) := by
  have split := undefinedSplit score (comparable query library)
  cases last : (untilUndefined score (comparable query library)).getLast? with
  | none =>
    rw [List.getLast?_eq_none_iff.mp last, List.nil_append] at split
    rw [← split, Option.map_none, Option.or_none]
  | some u =>
    have undefined := untilLast last
    rw [List.getLast?_eq_some_iff] at last
    obtain ⟨before, last⟩ := last
    rw [last, List.append_assoc, List.singleton_append] at split
    refine bestRestarts split fun x => ?_
    rw [undefined]
    exact PartialScore.withinUndefined tieTolerance x

theorem unbeatenIff {best : RankedEntry PartialScore}
    (found : bestBy (within tieTolerance) score (comparable query library) = some best) :
    Unbeaten score (comparable query library) best ↔ ∃ lead,
      bestBy (within tieTolerance) score (sinceUndefined score (comparable query library)) = some lead ∧
        Unbeaten score (untilUndefined score (comparable query library)) lead := by
  have split := undefinedSplit score (comparable query library)
  rw [bestSince] at found
  constructor
  · rintro ⟨x, number, unbeaten⟩
    cases led : bestBy (within tieTolerance) score (sinceUndefined score (comparable query library)) with
    | none =>
      rw [led, Option.none_or, Option.map_eq_some_iff] at found
      obtain ⟨u, last, rfl⟩ := found
      cases (untilLast last).symm.trans number
    | some lead =>
      rw [led] at found
      cases found
      refine ⟨_, rfl, x, number, fun e early => unbeaten e ?_⟩
      rw [split]
      exact List.mem_append_left _ early
  · rintro ⟨lead, led, x, number, unbeaten⟩
    rw [led] at found
    cases found
    have behind : (sinceUndefined score (comparable query library)).Sublist (comparable query library) :=
      (List.rtakeWhile_suffix _ _).sublist
    obtain ⟨y, same, unbeatenSince⟩ :=
      numbersUnbeaten ((comparableOrdered query library).sublist behind) (fun _ => sinceDefined) led
    cases number.symm.trans same
    refine ⟨x, number, fun e listed => ?_⟩
    rw [split] at listed
    rcases List.mem_append.mp listed with early | late
    · exact unbeaten e early
    · exact unbeatenSince e late

end

theorem bestUndefinedIff {α : Type} {yields : α → α → Bool} (score : LibraryEntry × Nat → α)
    {undefined : α → Prop} (defined : ∀ x y, yields x y = true → ¬ undefined x ∧ ¬ undefined y)
    {entries : List (LibraryEntry × Nat)} {last : LibraryEntry × Nat}
    (listed : entries.getLast? = some last) :
    ∃ best, bestBy yields score entries = some best ∧ (undefined best.score ↔ undefined (score last)) := by
  obtain ⟨before, rfl⟩ := List.getLast?_eq_some_iff.mp listed
  obtain ⟨e, _, leads, found⟩ := bestLeads yields score
    (List.append_ne_nil_of_right_ne_nil before (List.cons_ne_nil last []))
  rw [List.map_append, List.map_singleton] at leads
  exact ⟨_, found, Selection.leaderUndefinedIff defined leads⟩

theorem definedYields (x y : Float) (yields : within tieTolerance x y = true) :
    ¬ x.isNaN = true ∧ ¬ y.isNaN = true := by
  obtain ⟨here, there⟩ := ValueOrder.definedWithin (of_decide_eq_true yields)
  exact ⟨Bool.eq_false_iff.mp here, Bool.eq_false_iff.mp there⟩

theorem lastDecides (m : Matcher) {last : LibraryEntry × Nat}
    (listed : (comparable query library).getLast? = some last) :
    ∃ best, (m.rank query library 1).best = .ok best ∧
      best.score.isNaN = (m.score (m.weighted query) last.1).isNaN := by
  obtain ⟨best, found, alike⟩ :=
    bestUndefinedIff (fun e => m.score (m.weighted query) e.1) definedYields listed
  rw [← rankedBest] at found
  obtain ⟨others, listed⟩ := List.head?_eq_some_iff.mp found
  exact ⟨best, by rw [Ranking.best, listed], Bool.eq_iff_iff.mpr alike⟩

/-- The winner's score is no number exactly if that of the last entry is none. Otherwise the winner is that
of the entries after the last undefined score, and so it is a number that none is above by more than the
tolerance exactly if no number before is above it by more than the tolerance. -/
theorem undefinedTakesLead (m : Matcher) (query : List Float) (library : Library)
    (some : ∃ entry ∈ library, Fits query entry) :
    (∃ best last, (m.rank query library 1).best = .ok best ∧
      (comparable query library).getLast? = .some last ∧
      best.score.isNaN = (m.score (m.weighted query) last.1).isNaN) ∧
    ∀ score : LibraryEntry × Nat → PartialScore, ∃ best,
      bestBy (within tieTolerance) score (comparable query library) = .some best ∧
      bestBy (within tieTolerance) score (comparable query library) =
        (bestBy (within tieTolerance) score (sinceUndefined score (comparable query library))).or
          ((untilUndefined score (comparable query library)).getLast?.map (scored score)) ∧
      (Unbeaten score (comparable query library) best ↔ ∃ lead,
        bestBy (within tieTolerance) score (sinceUndefined score (comparable query library)) = .some lead ∧
          Unbeaten score (untilUndefined score (comparable query library)) lead) := by
  have filled := comparableSome.mpr some
  constructor
  · have last := List.getLast?_eq_some_getLast filled
    obtain ⟨best, found, alike⟩ := lastDecides m last
    exact ⟨best, _, found, last, alike⟩
  · intro score
    obtain ⟨_, _, _, found⟩ := bestLeads (within tieTolerance) score filled
    exact ⟨_, found, bestSince score query library, unbeatenIff found⟩

-- The products of the second vector are beyond the greatest float.
def vast : Library := [⟨"near", [10, 10], none⟩, ⟨"far", [1e308, 1e308], none⟩]

def vastScore (e : LibraryEntry × Nat) : PartialScore := if e.2 = 0 then .number 1 else .undefined

theorem vastFits : ∀ entry ∈ vast, Fits [10, 10] entry := by decide +kernel

theorem vastTakesLead : (∃ entry ∈ vast, Fits [10, 10] entry) ∧
    (∃ best last, (rank ⟨.cosine, none, 1000⟩ [10, 10] vast 1).best = .ok best ∧
      (comparable [10, 10] vast).getLast? = some last ∧
      best.score.isNaN = (score ⟨.cosine, none, 1000⟩ [10, 10] last.1).isNaN) ∧
    ∃ best, bestBy (within tieTolerance) vastScore (comparable [10, 10] vast) = some best ∧
      (Unbeaten vastScore (comparable [10, 10] vast) best ↔ ∃ lead,
        bestBy (within tieTolerance) vastScore (sinceUndefined vastScore (comparable [10, 10] vast)) =
          some lead ∧ Unbeaten vastScore (untilUndefined vastScore (comparable [10, 10] vast)) lead) := by
  have some : ∃ entry ∈ vast, Fits [10, 10] entry :=
    ⟨_, List.mem_cons_self, vastFits _ List.mem_cons_self⟩
  obtain ⟨real, exact⟩ := undefinedTakesLead ⟨.cosine, none, 1000⟩ [10, 10] vast some
  obtain ⟨best, found, _, iff⟩ := exact vastScore
  exact ⟨some, real, best, found, iff⟩

theorem vastMissed : (∀ entry ∈ vast, Fits [10, 10] entry) ∧
    (Metric.cosine.score [10, 10] [10, 10]).isNaN = false ∧
    (rank ⟨.cosine, none, 1000⟩ [10, 10] vast 1).matched.map (fun p => (p.id, p.score.isNaN)) =
      [("far", true)] ∧
    ∀ best, bestBy (within tieTolerance) vastScore (comparable [10, 10] vast) = some best →
      ¬ Unbeaten vastScore (comparable [10, 10] vast) best := by
  have won : (bestBy (within tieTolerance) vastScore (comparable [10, 10] vast)).map RankedEntry.score =
      some .undefined := by decide +kernel
  refine ⟨vastFits, by decide +kernel, by decide +kernel, ?_⟩
  rintro best found ⟨x, number, _⟩
  rw [found, Option.map_some, number] at won
  cases won

end Matcher

end ConceptSpace
