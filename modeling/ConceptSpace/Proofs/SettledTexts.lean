import ConceptSpace.Narrative.Nuance
import ConceptSpace.Proofs.WholeWords

/-! Texts that the rewriting stages leave alone.
A replacement ends in a word character and holds no harsh phrase, so it can only make one together with
what follows it, and that begins apart from it. What is rewritten once is therefore free of harsh phrases,
and a growth text that was hedged starts with the hedge. -/
namespace ConceptSpace

namespace Tone
open Text

section
variable {phrase soft word : List Char} {before other : Option Char}

theorem replaceSkip {skip : Nat} {text : List Char} :
    replace phrase soft before skip text =
      replace phrase soft ((text.take skip).getLast?.or before) 0 (text.drop skip) := by
  induction text generalizing skip before with
  | nil => cases skip <;> rfl
  | cons c text ih =>
    cases skip with
    | zero => rfl
    | succ skip =>
      rw [replace, ih]
      cases last : (text.take skip).getLast? <;> simp [List.getLast?_cons, last]

theorem replaceStanding {place after : List Char} (filled : phrase ≠ [])
    (alike : place.map foldCase = phrase.map foldCase) (begins : isWord before = false)
    (ends : isWord after.head? = false) :
    replace phrase soft before 0 (place ++ after) =
      (soft ++ (replace phrase soft place.getLast? 0 after).1,
        (replace phrase soft place.getLast? 0 after).2 + 1) := by
  have size : place.length = phrase.length := by simpa using congrArg List.length alike
  cases place with
  | nil => exact absurd (List.eq_nil_of_length_eq_zero size.symm) filled
  | cons c place =>
    have stands : standsAt phrase before (c :: (place ++ after)) = true :=
      standsSplit.mpr ⟨begins, c :: place, after, rfl, alike, ends⟩
    have short : place.length = phrase.length - 1 := by simp [← size]
    rw [List.cons_append, replace, if_pos stands, replaceSkip, List.take_left' short,
      List.drop_left' short]
    cases last : place.getLast? <;> simp [List.getLast?_cons, last]

theorem replaceFree {text : List Char} (free : FreeOf phrase before text) :
    replace phrase soft before 0 text = (text, 0) := by
  induction text generalizing before with
  | nil => rfl
  | cons c text ih =>
    obtain ⟨passed, later⟩ := freeCons.mp free
    rw [replace, if_neg (Bool.eq_false_iff.mp passed), ih later]

theorem freeIff {text : List Char} (filled : phrase ≠ []) :
    FreeOf phrase before text ↔ (replace phrase soft before 0 text).2 = 0 := by
  induction text generalizing before with
  | nil => exact iff_of_true (freeNil filled) rfl
  | cons c text ih =>
    rw [freeCons, replace]
    by_cases stands : standsAt phrase before (c :: text) = true
    · simp [stands]
    · rw [if_neg stands, ih]
      simp [stands]

theorem runKept {text : List Char} (inside : isWord before = true) :
    leadingWord (replace phrase soft before 0 text).1 = leadingWord text := by
  induction text generalizing before with
  | nil => rfl
  | cons c text ih =>
    have passed : ¬ standsAt phrase before (c :: text) = true := by
      simp [standsAt, inside]
    rw [replace, if_neg passed]
    cases member : isWordCharacter c with
    | false => simp [leadingWord, member]
    | true =>
      have later := @ih (some c) member
      unfold leadingWord at *
      rw [List.takeWhile_cons_of_pos member, List.takeWhile_cons_of_pos member, later]

theorem runBegun (c : Char) (text : List Char) :
    leadingWord (c :: (replace phrase soft (some c) 0 text).1) = leadingWord (c :: text) := by
  cases member : isWordCharacter c with
  | false => simp [leadingWord, member]
  | true =>
    have later := @runKept phrase soft (some c) text member
    unfold leadingWord at *
    rw [List.takeWhile_cons_of_pos member, List.takeWhile_cons_of_pos member, later]

def Closed (phrase soft : List Char) : Prop :=
  (∃ p ∈ phrase.getLast?, IsLetter p) ∧ isWord soft.getLast? = true

theorem closedFilled (closed : Closed phrase soft) : phrase ≠ [] := by
  intro empty
  obtain ⟨⟨p, last, _⟩, _⟩ := closed
  simp [empty] at last

theorem closedLast (closed : Closed phrase soft) {place : List Char}
    (alike : place.map foldCase = phrase.map foldCase) : isWord place.getLast? = true := by
  have same := congrArg List.getLast? alike
  rw [List.getLast?_map, List.getLast?_map] at same
  exact letterWord closed.1 same

theorem replacedFree (wordy : IsWordy word) (filled : word ≠ []) (closed : Closed phrase soft)
    (softly : FreeOf word none soft) {text : List Char} (same : isWord before = isWord other)
    (either : word = phrase ∨ FreeOf word before text) :
    FreeOf word other (replace phrase soft before 0 text).1 := by
  -- On the length, since a phrase that is replaced is passed in one step. The characters before the two
  -- texts may differ, but not in whether they belong to a word.
  induction size : text.length using Nat.strong_induction_on generalizing text before other with
  | _ n ih =>
    cases text with
    | nil => exact freeNil filled
    | cons c text =>
      by_cases stands : standsAt phrase before (c :: text) = true
      · obtain ⟨begins, place, after, split, alike, ends⟩ := standsSplit.mp stands
        have last := closedLast closed alike
        have shorter : after.length < n := by
          have whole := congrArg List.length split
          have some : place ≠ [] := by
            intro empty
            simp [empty, isWord] at last
          have := List.length_pos_iff.mpr some
          simp only [List.length_append] at whole
          omega
        rw [split, replaceStanding (closedFilled closed) alike begins ends]
        have apart : leadingWord (replace phrase soft place.getLast? 0 after).1 = [] := by
          rw [runKept last]
          exact leadingNil.mpr ends
        have first : FreeOf word other soft := freeAfter (by rw [← same, begins]; rfl) softly
        apply freeJoin wordy apart first
        have joined : isWord place.getLast? = isWord (soft.getLast?.or other) := by
          rw [wordOr closed.2, closed.2, last]
        refine ih after.length shorter joined (either.imp_right fun free => ?_) rfl
        rw [split] at free
        have behind := freeBehind free
        rwa [wordOr last] at behind
      · have passed : standsAt word other (c :: (replace phrase soft (some c) 0 text).1) = false := by
          rw [Bool.eq_false_iff, ne_eq, standsWordy wordy, runBegun, ← same, ← standsWordy wordy]
          rcases either with rfl | free
          · exact stands
          · simp [(freeCons.mp free).1]
        rw [replace, if_neg stands, freeCons]
        exact ⟨passed, ih text.length (by simp [← size]) rfl
          (either.imp_right fun free => (freeCons.mp free).2) rfl⟩

end

theorem foldedFree {word : List Char} (wordy : IsWordy word) (filled : word ≠ []) {entries : List Softening}
    (fit : ∀ s ∈ entries, Closed s.harsh.toList s.soft.toList ∧ FreeOf word none s.soft.toList)
    (text : List Char × Nat)
    (either : (∃ s ∈ entries, s.harsh.toList = word) ∨ FreeOf word none text.1) :
    FreeOf word none (entries.foldl softenBy text).1 := by
  induction entries generalizing text with
  | nil => simpa using either
  | cons s entries ih =>
    obtain ⟨closed, softly⟩ := fit s List.mem_cons_self
    have next (here : word = s.harsh.toList ∨ FreeOf word none text.1) :
        FreeOf word none (softenBy text s).1 := replacedFree wordy filled closed softly rfl here
    apply ih fun t later => fit t (List.mem_cons_of_mem s later)
    rcases either with ⟨t, listed, same⟩ | free
    · rcases List.mem_cons.mp listed with rfl | later
      · exact .inr (next (.inl same.symm))
      · exact .inl ⟨t, later, same⟩
    · exact .inr (next (.inr free))

theorem freeLast {front word text : List Char} (free : FreeOf word none text) :
    FreeOf (front ++ ' ' :: word) none text := by
  intro before rest split
  rw [Bool.eq_false_iff]
  intro stands
  obtain ⟨_, place, after, rfl, alike, ends⟩ := standsSplit.mp stands
  rw [List.map_append, List.map_cons] at alike
  obtain ⟨first, second, rfl, _, tail⟩ := List.map_eq_append_iff.mp alike
  obtain ⟨c, last, rfl, blank, same⟩ := List.map_eq_cons_iff.mp tail
  have whole : text = (before ++ (first ++ [c])) ++ (last ++ after) := by simp [split]
  have apart := free _ _ whole
  rw [Bool.eq_false_iff] at apart
  apply apart
  refine standsSplit.mpr ⟨?_, last, after, rfl, same, ends⟩
  simpa [isWord] using blankApart (blank.trans (by decide))

theorem tableClosed : ∀ s ∈ table, Closed s.harsh.toList s.soft.toList := by
  have letter : ∀ s ∈ table, s.harsh.toList.getLast?.any (· ∈ letters) = true ∧
      isWord s.soft.toList.getLast? = true := by decide
  intro s listed
  obtain ⟨last, closes⟩ := letter s listed
  exact ⟨anyLetter last, closes⟩

theorem tableSoft : ∀ s ∈ table, ∀ t ∈ table, FreeOf t.harsh.toList none s.soft.toList := by
  have counted : ∀ s ∈ table, ∀ t ∈ table, t.harsh.toList ≠ [] ∧
      (replace t.harsh.toList [] none 0 s.soft.toList).2 = 0 := by decide +kernel
  intro s listed t among
  obtain ⟨filled, none⟩ := counted s listed t among
  exact (freeIff filled).mpr none

theorem tableWords : ∀ s ∈ table, s.harsh.toList ⊆ letters ∨
    ∃ t ∈ table, t.harsh.toList ⊆ letters ∧ s.harsh.toList = "completely".toList ++ ' ' :: t.harsh.toList := by
  decide

def Harshless (text : List Char) : Prop := ∀ s ∈ table, FreeOf s.harsh.toList none text

theorem harshlessWords {text : List Char}
    (free : ∀ s ∈ table, IsWordy s.harsh.toList → FreeOf s.harsh.toList none text) : Harshless text := by
  intro s listed
  rcases tableWords s listed with letters | ⟨t, among, letters, same⟩
  · exact free s listed fun p inside => letterIs (letters inside)
  · rw [same]
    exact freeLast (free t among fun p inside => letterIs (letters inside))

theorem softenHarshless (text : String) : Harshless (soften text).1.toList := by
  apply harshlessWords
  intro s listed wordy
  rw [soften, String.toList_ofList]
  exact foldedFree wordy (closedFilled (tableClosed s listed))
    (fun t among => ⟨tableClosed t among, tableSoft t among s listed⟩) _ (.inl ⟨s, listed, rfl⟩)

theorem softenSettled {text : String} (harshless : Harshless text.toList) : soften text = (text, 0) := by
  have kept (entries : List Softening) (free : ∀ s ∈ entries, FreeOf s.harsh.toList none text.toList) :
      entries.foldl softenBy (text.toList, 0) = (text.toList, 0) := by
    induction entries with
    | nil => rfl
    | cons s entries ih =>
      rw [List.foldl_cons, softenBy, replaceFree (free s List.mem_cons_self)]
      exact ih fun t later => free t (List.mem_cons_of_mem s later)
  rw [soften, kept table harshless]
  simp

theorem hedgedHarshless {growth : String} (harshless : Harshless growth.toList) :
    Harshless (hedged growth).toList := by
  apply harshlessWords
  intro s listed wordy
  have filled := closedFilled (tableClosed s listed)
  have counted : ∀ s ∈ table, (replace s.harsh.toList [] none 0 hedge.toList).2 = 0 := by decide +kernel
  have first : FreeOf s.harsh.toList none hedge.toList := (freeIff filled).mpr (counted s listed)
  unfold hedged
  split
  · exact first
  · rw [String.toList_append, String.toList_append, List.append_assoc]
    change FreeOf _ none (hedge.toList ++ (' ' :: growth.toList))
    have apart : isWordCharacter ' ' = false := by decide
    have blank : leadingWord (' ' :: growth.toList) = [] := leadingNil.mpr apart
    refine freeJoin wordy blank first (freeCons.mpr ⟨?_, freeAfter ?_ (harshless s listed)⟩)
    · rw [Bool.eq_false_iff, ne_eq, standsWordy wordy, blank]
      intro stands
      exact filled (List.map_eq_nil_iff.mp stands.2.symm)
    · exact apart.symm

def Edge (left right : Option Char) : Prop := isWord left ≠ isWord right

def Occurs (phrase text : List Char) : Prop :=
  ∃ before place after, text = before ++ (place ++ after) ∧
    place.map foldCase = phrase.map foldCase ∧
    Edge before.getLast? place.head? ∧ Edge place.getLast? after.head?

theorem freeUnoccurring {phrase text : List Char} (first : ∃ p ∈ phrase.head?, IsLetter p)
    (last : ∃ p ∈ phrase.getLast?, IsLetter p) (free : FreeOf phrase none text) :
    ¬ Occurs phrase text := by
  intro occurs
  obtain ⟨before, place, after, rfl, alike, begins, ends⟩ := occurs
  have opens : isWord place.head? = true := by
    have same := congrArg List.head? alike
    rw [List.head?_map, List.head?_map] at same
    exact letterWord first same
  have closes : isWord place.getLast? = true := by
    have same := congrArg List.getLast? alike
    rw [List.getLast?_map, List.getLast?_map] at same
    exact letterWord last same
  rw [Edge, opens] at begins
  rw [Edge, closes] at ends
  have apart := free before (place ++ after) rfl
  rw [Option.or_none, Bool.eq_false_iff] at apart
  exact apart (standsSplit.mpr ⟨by simpa using begins, place, after, rfl, alike, by simpa using ends.symm⟩)

theorem harshlessUnoccurring {text : List Char} (harshless : Harshless text) :
    ∀ s ∈ table, ¬ Occurs s.harsh.toList text := by
  have ends : ∀ s ∈ table, s.harsh.toList.head?.any (· ∈ letters) = true ∧
      s.harsh.toList.getLast?.any (· ∈ letters) = true := by decide
  intro s listed
  obtain ⟨first, last⟩ := ends s listed
  exact freeUnoccurring (anyLetter first) (anyLetter last) (harshless s listed)

end Tone

section
variable (weak negative : Float) (c : Circumstances) (n : Narrative)

def rewritten : Narrative := ((emotionalNuance weak negative).apply c (toneAdjuster.apply c n).1).1

theorem hedgedStarts (growth : String) : Text.startsWith hedge (hedged growth) = true := by
  rw [Text.startsWith, List.isPrefixOf_iff_prefix]
  unfold hedged
  split
  · exact List.prefix_rfl
  · rw [String.toList_append, String.toList_append, List.append_assoc]
    exact List.prefix_append _ _

theorem nuanceLeaves (hedged : Text.startsWith hedge n.growth = true) :
    ((emotionalNuance weak negative).apply c n).1 = n := by
  simp [emotionalNuance, hedged]

theorem nuanceOnce : ((emotionalNuance weak negative).apply c n).1 = n ∨
    Text.startsWith hedge n.growth = false ∧
      ((emotionalNuance weak negative).apply c n).1 = { n with growth := hedged n.growth } := by
  unfold emotionalNuance
  dsimp only
  split
  · rename_i hedges
    exact .inr ⟨by simpa using (Bool.and_eq_true_iff.mp hedges).2, rfl⟩
  · exact .inl rfl

theorem nuanceAgain : ((emotionalNuance weak negative).apply c
      ((emotionalNuance weak negative).apply c n).1).1 = ((emotionalNuance weak negative).apply c n).1 := by
  rcases nuanceOnce weak negative c n with same | ⟨_, hedges⟩
  · rw [same, same]
  · rw [hedges]
    exact nuanceLeaves _ _ _ _ (hedgedStarts n.growth)

theorem rewrittenTexts : (rewritten weak negative c n).intent = (Tone.soften n.intent).1 ∧
    ((rewritten weak negative c n).growth = (Tone.soften n.growth).1 ∨
      Text.startsWith hedge (Tone.soften n.growth).1 = false ∧
        (rewritten weak negative c n).growth = hedged (Tone.soften n.growth).1) := by
  have intent : (toneAdjuster.apply c n).1.intent = (Tone.soften n.intent).1 := rfl
  have growth : (toneAdjuster.apply c n).1.growth = (Tone.soften n.growth).1 := rfl
  rw [rewritten, ← intent, ← growth]
  rcases nuanceOnce weak negative c (toneAdjuster.apply c n).1 with same | ⟨unhedged, hedges⟩
  · rw [same]
    exact ⟨rfl, .inl rfl⟩
  · rw [hedges]
    refine ⟨rfl, .inr ⟨unhedged, ?_⟩⟩
    dsimp only

theorem rewrittenHarshless : Tone.Harshless (rewritten weak negative c n).intent.toList ∧
    Tone.Harshless (rewritten weak negative c n).growth.toList := by
  have soft := Tone.softenHarshless n.growth
  obtain ⟨intent, growth | ⟨_, growth⟩⟩ := rewrittenTexts weak negative c n
  · rw [intent, growth]
    exact ⟨Tone.softenHarshless n.intent, soft⟩
  · rw [intent, growth]
    exact ⟨Tone.softenHarshless n.intent, Tone.hedgedHarshless soft⟩

theorem toneSettled (intent : Tone.Harshless n.intent.toList) (growth : Tone.Harshless n.growth.toList) :
    toneAdjuster.apply c n = (n, .pass "no harsh phrasing") := by
  simp [toneAdjuster, Tone.softenSettled intent, Tone.softenSettled growth]

theorem rewrittenAgain (weak' negative' : Float) (c' : Circumstances) :
    rewritten weak' negative' c' (rewritten weak negative c n) =
      ((emotionalNuance weak' negative').apply c' (rewritten weak negative c n)).1 := by
  obtain ⟨intent, growth⟩ := rewrittenHarshless weak negative c n
  conv_lhs => rw [rewritten, toneSettled _ _ intent growth]

/-- Both stages leave no harsh phrase, and a second time they change nothing. The growth text starts
with at most one hedge that was put there, whatever the second time is under. -/
theorem rewritingSettles :
    (∀ text ∈ [(rewritten weak negative c n).intent, (rewritten weak negative c n).growth],
      ∀ s ∈ Tone.table, ¬ Tone.Occurs s.harsh.toList text.toList) ∧
    toneAdjuster.apply c (rewritten weak negative c n) =
      (rewritten weak negative c n, .pass "no harsh phrasing") ∧
    rewritten weak negative c (rewritten weak negative c n) = rewritten weak negative c n ∧
    ∀ (weak' negative' : Float) (c' : Circumstances),
      (rewritten weak' negative' c' (rewritten weak negative c n)).growth = (Tone.soften n.growth).1 ∨
      Text.startsWith hedge (Tone.soften n.growth).1 = false ∧
        (rewritten weak' negative' c' (rewritten weak negative c n)).growth =
          hedged (Tone.soften n.growth).1 := by
  obtain ⟨intent, growth⟩ := rewrittenHarshless weak negative c n
  refine ⟨?_, toneSettled c _ intent growth, ?_, fun weak' negative' c' => ?_⟩
  · intro text among
    rcases List.mem_pair.mp among with rfl | rfl
    · exact Tone.harshlessUnoccurring intent
    · exact Tone.harshlessUnoccurring growth
  · rw [rewrittenAgain]
    exact nuanceAgain weak negative c _
  · rw [rewrittenAgain]
    obtain ⟨_, texts⟩ := rewrittenTexts weak negative c n
    rcases nuanceOnce weak' negative' c' (rewritten weak negative c n) with same | ⟨unhedged, hedges⟩
    · rw [same]
      exact texts
    · rcases texts with soft | ⟨_, once⟩
      · rw [soft] at unhedged
        rw [hedges, soft]
        refine .inr ⟨unhedged, ?_⟩
        dsimp only
      -- A text that was hedged the first time is not hedged again.
      · rw [once, hedgedStarts] at unhedged
        cases unhedged

end

end ConceptSpace
