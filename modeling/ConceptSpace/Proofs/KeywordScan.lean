import Mathlib
import ConceptSpace.Proofs.AlikeTexts
import ConceptSpace.Redactor

/-! The keyword scan against the places where a term stands.
A place of a text is a split into what comes before and the rest. The scan finds something exactly
when some term stands at a place where no term that the order puts first reads on into a word. -/
namespace ConceptSpace.Redactor
open Text

def Bounded (term : List Char) (before : Option Char) (rest : List Char) : Prop :=
  isBoundary before = true ∧ isBoundary (rest.drop term.length).head? = true
instance (term before rest) : Decidable (Bounded term before rest) := by
  unfold Bounded; infer_instance

def Stands (term : List Char) (before : Option Char) (rest : List Char) : Prop :=
  startsAlike term rest = true ∧ Bounded term before rest
instance (term before rest) : Decidable (Stands term before rest) := by
  unfold Stands; infer_instance

def Hides (terms : List (List Char)) (other term : List Char) (before : Option Char)
    (rest : List Char) : Prop :=
  terms.idxOf other < terms.idxOf term ∧ startsAlike other rest = true ∧ ¬ Bounded other before rest

def Hit (terms : List (List Char)) (before : Option Char) (rest : List Char) : Prop :=
  ∃ term, terms.find? (fun term => startsAlike term rest) = some term ∧ Bounded term before rest

theorem memOrdered {terms : List String} {term : List Char} :
    term ∈ (ofTerms terms).ordered ↔ ∃ t ∈ terms, trim t ≠ "" ∧ (trim t).toList = term := by
  simp only [ordered, ofTerms, List.mem_map, List.mem_mergeSort, List.mem_filter]
  constructor
  · intro found
    obtain ⟨s, ⟨⟨t, ht, rfl⟩, filled⟩, rfl⟩ := found
    exact ⟨t, ht, by simpa using filled, rfl⟩
  · intro found
    obtain ⟨t, ht, filled, rfl⟩ := found
    exact ⟨trim t, ⟨⟨t, ht, rfl⟩, by simpa using filled⟩, rfl⟩

theorem orderedNonempty {terms : List String} {term : List Char}
    (listed : term ∈ (ofTerms terms).ordered) : term ≠ [] := by
  obtain ⟨t, _, filled, rfl⟩ := memOrdered.mp listed
  intro empty
  exact filled (String.toList_eq_nil_iff.mp empty)

theorem orderedByLength (r : Redactor) :
    r.ordered.Pairwise fun a b => (String.ofList b).utf8ByteSize ≤ (String.ofList a).utf8ByteSize := by
  have sorted := @List.pairwise_mergeSort String (fun a b => b.utf8ByteSize ≤ a.utf8ByteSize)
    (fun a b c ab bc => by simp only [decide_eq_true_eq] at *; omega)
    (fun a b => by simp only [Bool.or_eq_true, decide_eq_true_eq]; omega) r.terms
  simpa [ordered, List.pairwise_map] using sorted

theorem scanStepNil {terms : List (List Char)} {before : Option Char} {c : Char} {rest : List Char} :
    scan terms before 0 (c :: rest) = [] ↔
      ¬ Hit terms before (c :: rest) ∧ scan terms (some c) 0 rest = [] := by
  rw [scan]
  cases taken : terms.find? fun term => startsAlike term (c :: rest) with
  | none => simp [Hit, taken]
  | some term =>
    by_cases bounded : Bounded term before (c :: rest)
    · have kept := Bool.and_eq_true_iff.mpr bounded
      have hit : Hit terms before (c :: rest) := ⟨term, taken, bounded⟩
      simp only [if_pos kept, hit]
      simp
    · have passed := fun both => bounded (Bool.and_eq_true_iff.mp both)
      have missed : ¬ Hit terms before (c :: rest) := by
        intro hit
        obtain ⟨other, found, beside⟩ := hit
        exact bounded (Option.some.inj (taken.symm.trans found) ▸ beside)
      simp only [if_neg passed, missed]
      simp

theorem scanNil {terms : List (List Char)} {before : Option Char} {text : List Char} :
    scan terms before 0 text = [] ↔
      ∀ pre rest, text = pre ++ rest → rest ≠ [] → ¬ Hit terms (pre.getLast?.or before) rest := by
  induction text generalizing before with
  | nil => simp [scan]
  | cons c text ih =>
    rw [scanStepNil, ih]
    constructor
    · intro both pre rest split filled
      obtain ⟨here, later⟩ := both
      cases pre with
      | nil => subst split; simpa using here
      | cons d pre =>
        obtain ⟨rfl, same⟩ := List.cons.inj split
        simpa [List.getLast?_cons] using later pre rest same filled
    · intro all
      refine ⟨by simpa using all [] (c :: text) rfl (by simp), ?_⟩
      intro pre rest split filled
      simpa [List.getLast?_cons] using all (c :: pre) rest (by simp [split]) filled

theorem eraseDupsNil {hits : List String} : hits.eraseDups = [] ↔ hits = [] := by
  cases hits with
  | nil => simp
  | cons hit hits => simp [List.eraseDups_cons]

theorem findMatchesNil {r : Redactor} {text : String} :
    r.findMatches text = [] ↔
      ∀ pre rest, text.toList = pre ++ rest → rest ≠ [] → ¬ Hit r.ordered pre.getLast? rest := by
  simp [findMatches, eraseDupsNil, scanNil]

theorem takenFirst {terms : List (List Char)} {rest taken term : List Char}
    (found : terms.find? (fun term => startsAlike term rest) = some taken)
    (listed : term ∈ terms) (reads : startsAlike term rest = true) (other : taken ≠ term) :
    terms.idxOf taken < terms.idxOf term := by
  obtain ⟨_, front, back, rfl, earlier⟩ := List.find?_eq_some_iff_append.mp found
  have absent : ∀ t, startsAlike t rest = true → t ∉ front := by
    intro t reads inFront
    simpa [reads] using earlier t inFront
  rw [List.idxOf_append_of_notMem (absent term reads),
    List.idxOf_append_of_notMem (absent taken (by simpa using List.find?_some found)),
    List.idxOf_cons_self, List.idxOf_cons_ne _ other]
  omega

theorem takenUnpreceded {terms : List (List Char)} {rest taken other : List Char}
    (found : terms.find? (fun term => startsAlike term rest) = some taken)
    (earlier : terms.idxOf other < terms.idxOf taken) : startsAlike other rest = false := by
  by_contra reads
  have reads : startsAlike other rest = true := by simpa using reads
  have listed : other ∈ terms :=
    List.idxOf_lt_length_iff.mp (Nat.lt_of_lt_of_le earlier List.idxOf_le_length)
  by_cases same : taken = other
  · subst same; omega
  · have := takenFirst found listed reads same
    omega

theorem hitIff {terms : List (List Char)} {before : Option Char} {rest : List Char} :
    Hit terms before rest ↔
      ∃ term ∈ terms, Stands term before rest ∧ ∀ other, ¬ Hides terms other term before rest := by
  constructor
  · intro hit
    obtain ⟨term, found, bounded⟩ := hit
    have reads : startsAlike term rest = true := by simpa using List.find?_some found
    refine ⟨term, List.mem_of_find?_eq_some found, ⟨reads, bounded⟩, ?_⟩
    intro other hides
    obtain ⟨earlier, reads, _⟩ := hides
    simp [takenUnpreceded found earlier] at reads
  · intro standing
    obtain ⟨term, listed, ⟨reads, bounded⟩, unhidden⟩ := standing
    cases found : terms.find? fun term => startsAlike term rest with
    | none => simpa [reads] using List.find?_eq_none.mp found term listed
    | some taken =>
      refine ⟨taken, found, ?_⟩
      by_contra unbounded
      by_cases same : taken = term
      · exact unbounded (same ▸ bounded)
      · exact unhidden taken ⟨takenFirst found listed reads same, by simpa using List.find?_some found, unbounded⟩

theorem foundUnhidden {terms : List String} {text : String}
    (found : (ofTerms terms).findMatches text ≠ []) :
    ∃ term ∈ terms, trim term ≠ "" ∧ ∃ before rest, text.toList = before ++ rest ∧
      Stands (trim term).toList before.getLast? rest ∧
      ∀ other, ¬ Hides (ofTerms terms).ordered other (trim term).toList before.getLast? rest := by
  rw [Ne, findMatchesNil] at found
  simp only [not_forall, not_not] at found
  obtain ⟨before, rest, split, _, hit⟩ := found
  obtain ⟨term, listed, stands, unhidden⟩ := hitIff.mp hit
  obtain ⟨t, ht, filled, rfl⟩ := memOrdered.mp listed
  exact ⟨t, ht, filled, before, rest, split, stands, unhidden⟩

theorem standingHidden {terms : List String} {text : String}
    (none : (ofTerms terms).findMatches text = []) {term : String} (listed : term ∈ terms)
    (filled : trim term ≠ "") {before rest : List Char} (split : text.toList = before ++ rest)
    (stands : Stands (trim term).toList before.getLast? rest) :
    ∃ other, Hides (ofTerms terms).ordered other (trim term).toList before.getLast? rest := by
  have ordered := memOrdered.mpr ⟨term, listed, filled, rfl⟩
  have some : rest ≠ [] := by
    intro empty
    rw [empty] at stands
    exact orderedNonempty ordered (startsAlikeNil stands.1)
  by_contra unhidden
  exact findMatchesNil.mp none before rest split some
    (hitIff.mpr ⟨_, ordered, stands, not_exists.mp unhidden⟩)

/-- The scan finds something exactly when a listed term stands somewhere in the text and no term
before it in the order, from the longest on, reads there with a letter or digit beside it. -/
theorem findMatchesIffUnhidden (terms : List String) (text : String) :
    (ofTerms terms).findMatches text ≠ [] ↔
      ∃ term ∈ terms, trim term ≠ "" ∧ ∃ before rest, text.toList = before ++ rest ∧
        Stands (trim term).toList before.getLast? rest ∧
        ∀ other, ¬ Hides (ofTerms terms).ordered other (trim term).toList before.getLast? rest := by
  constructor
  · exact foundUnhidden
  · intro standing none
    obtain ⟨term, listed, filled, before, rest, split, stands, unhidden⟩ := standing
    obtain ⟨other, hides⟩ := standingHidden none listed filled split stands
    exact unhidden other hides

/-- "orion x" is taken where "orion" stands, and the y after it spoils the place. -/
theorem standingTermMissed :
    (∃ term ∈ ["orion", "orion x"], trim term ≠ "" ∧ ∃ before rest,
      "orion xy".toList = before ++ rest ∧ Stands (trim term).toList before.getLast? rest) ∧
    (ofTerms ["orion", "orion x"]).findMatches "orion xy" = [] :=
  ⟨⟨"orion", by simp, by cbv, [], "orion xy".toList, rfl, by cbv⟩, by cbv⟩

theorem hidingTermLonger {r : Redactor} {other term rest : List Char} {before : Option Char}
    (listed : term ∈ r.ordered) (hides : Hides r.ordered other term before rest) :
    (String.ofList term).utf8ByteSize ≤ (String.ofList other).utf8ByteSize := by
  have inside := List.idxOf_lt_length_of_mem listed
  have sorted := List.pairwise_iff_getElem.mp (orderedByLength r) _ _
    (Nat.lt_trans hides.1 inside) inside hides.1
  simpa using sorted

theorem standingTermFound {terms : List String} {text : String}
    (apart : ∀ a ∈ (ofTerms terms).ordered, ∀ b ∈ (ofTerms terms).ordered,
      startsAlike a b = true → a.length = b.length)
    {term : String} (listed : term ∈ terms) (filled : trim term ≠ "") {before rest : List Char}
    (split : text.toList = before ++ rest) (stands : Stands (trim term).toList before.getLast? rest) :
    (ofTerms terms).findMatches text ≠ [] := by
  intro none
  obtain ⟨other, earlier, reads, unbounded⟩ := standingHidden none listed filled split stands
  have here := memOrdered.mpr ⟨term, listed, filled, rfl⟩
  have there := List.idxOf_lt_length_iff.mp (Nat.lt_of_lt_of_le earlier List.idxOf_le_length)
  have same : other.length = (trim term).toList.length := by
    rcases Nat.le_total other.length (trim term).toList.length with shorter | longer
    · exact apart _ there _ here (startsAlikeShorter reads stands.1 shorter)
    · exact (apart _ here _ there (startsAlikeShorter stands.1 reads longer)).symm
  exact unbounded (by simpa only [Bounded, same] using stands.2)

end ConceptSpace.Redactor
