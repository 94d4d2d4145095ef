import ConceptSpace.Proofs.BlankTexts
import ConceptSpace.Proofs.MarkedText
import ConceptSpace.Proofs.StandardRun

/-! What the standard chain publishes.
The texts are followed with marks through the stages that rewrite them, so that a keyword which no
stage wrote into is seen where the gatekeeper read it. -/
namespace ConceptSpace
open Redactor MarkedText

namespace Tone

def replaceMarked (phrase soft : List Char) (before : Option Char) : Nat → MarkedText → MarkedText
  | _, [] => []
  | skip + 1, x :: rest => replaceMarked phrase soft (some x.1) skip rest
  | 0, x :: rest =>
    if standsAt phrase before (plain (x :: rest)) then
      written soft ++ replaceMarked phrase soft (some x.1) (phrase.length - 1) rest
    else x :: replaceMarked phrase soft (some x.1) 0 rest

def softenMarkedBy (t : MarkedText) (s : Softening) : MarkedText :=
  replaceMarked s.harsh.toList s.soft.toList none 0 t

def softenMarked (text : String) : MarkedText := table.foldl softenMarkedBy (kept text.toList)

theorem replacePlain {phrase soft : List Char} {before : Option Char} {skip : Nat} {t : MarkedText} :
    plain (replaceMarked phrase soft before skip t) = (replace phrase soft before skip (plain t)).1 := by
  induction t generalizing before skip with
  | nil => cases skip <;> rfl
  | cons x t ih =>
    cases skip with
    | succ skip => exact ih
    | zero =>
      by_cases stands : standsAt phrase before (plain (x :: t)) = true
      · rw [replaceMarked, if_pos stands, plainAppend, plainWritten, ih]
        change standsAt phrase before (x.1 :: plain t) = true at stands
        change _ = (replace phrase soft before 0 (x.1 :: plain t)).1
        rw [replace, if_pos stands]
      · rw [replaceMarked, if_neg stands]
        change ¬ standsAt phrase before (x.1 :: plain t) = true at stands
        change x.1 :: plain _ = (replace phrase soft before 0 (x.1 :: plain t)).1
        rw [replace, if_neg stands, ih]

theorem replaceRewrites {phrase soft : List Char} (edged : Edged soft)
    {before : Option Char} {skip : Nat} {t : MarkedText} :
    Rewrites (t.drop skip) (replaceMarked phrase soft before skip t) := by
  induction t generalizing before skip with
  | nil =>
    rw [List.drop_nil]
    cases skip <;> exact .done
  | cons x t ih =>
    cases skip with
    | succ skip => exact ih
    | zero =>
      rw [replaceMarked]
      split
      · have rest := Rewrites.put (x :: t.take (phrase.length - 1)) edged (@ih (some x.1) (phrase.length - 1))
        rwa [List.cons_append, List.take_append_drop] at rest
      · exact .keep x (@ih (some x.1) 0)

theorem tableEdged : ∀ s ∈ table, Edged s.soft.toList := by
  decide

theorem foldPlain (entries : List Softening) (t : MarkedText) (count : Nat) :
    plain (entries.foldl softenMarkedBy t) = (entries.foldl softenBy (plain t, count)).1 := by
  induction entries generalizing t count with
  | nil => rfl
  | cons s entries ih =>
    rw [List.foldl_cons, List.foldl_cons, ih _ (count + _)]
    unfold softenMarkedBy softenBy
    rw [replacePlain]

theorem softenPlain (text : String) : plain (softenMarked text) = (soften text).1.toList := by
  unfold softenMarked soften
  rw [foldPlain table _ 0, plainKept, String.toList_ofList]

theorem foldCarried {entries : List Softening}
    (edged : ∀ s ∈ entries, Edged s.soft.toList) {t : MarkedText}
    {sources : List (List Char)} (carried : Carried t sources) :
    Carried (entries.foldl softenMarkedBy t) sources := by
  induction entries generalizing t with
  | nil => exact carried
  | cons s entries ih =>
    have rewrites := @replaceRewrites s.harsh.toList _ (edged s List.mem_cons_self) none 0 t
    have next := carriedRewritten carried rewrites
    exact ih (fun other later => edged other (List.mem_cons_of_mem s later)) next

theorem softenCarried (text : String) : Carried (softenMarked text) [text.toList] :=
  foldCarried tableEdged (carriedKept text.toList)

end Tone

def trimEndMarked (t : MarkedText) : MarkedText := (t.reverse.dropWhile (Text.isBlank ·.1)).reverse

def attributedMarked (c : Circumstances) (intent : String) : MarkedText :=
  let soft := Tone.softenMarked intent
  if soft.isEmpty then kept (attribution c).toList
  else trimEndMarked soft ++ (written [' '] ++ kept (attribution c).toList)

def hedgedMarked (growth : String) : MarkedText :=
  let soft := Tone.softenMarked growth
  if soft.isEmpty then written hedge.toList else written hedge.toList ++ (written [' '] ++ soft)

theorem plainEmpty {t : MarkedText} {text : String} (same : plain t = text.toList) :
    t.isEmpty = text.isEmpty := by
  rw [Bool.eq_iff_iff, List.isEmpty_iff, String.isEmpty_iff, ← String.toList_eq_nil_iff, ← same]
  simp [plain]

theorem trimEndPlain (t : MarkedText) : plain (trimEndMarked t) = Text.trimEndChars (plain t) := by
  unfold trimEndMarked plain Text.trimEndChars
  rw [← List.map_reverse, List.dropWhile_map, List.map_reverse]
  rfl

theorem attributedPlain (c : Circumstances) (intent : String) :
    plain (attributedMarked c intent) = (Pipeline.attributed c (Tone.soften intent).1).toList := by
  have soft := Tone.softenPlain intent
  unfold attributedMarked Pipeline.attributed
  dsimp only
  rw [plainEmpty soft]
  split
  · exact plainKept _
  · rw [plainAppend, plainAppend, plainKept, plainWritten, trimEndPlain, soft]
    simp [Text.trimEnd]

theorem hedgedPlain (growth : String) :
    plain (hedgedMarked growth) = (hedged (Tone.soften growth).1).toList := by
  have soft := Tone.softenPlain growth
  unfold hedgedMarked hedged
  dsimp only
  rw [plainEmpty soft]
  split
  · exact plainWritten _
  · rw [plainAppend, plainAppend, plainWritten, plainWritten, soft]
    simp

theorem trimEndCarried {t : MarkedText} {sources : List (List Char)} (carried : Carried t sources) :
    Carried (trimEndMarked t) sources := by
  have whole : t = trimEndMarked t ++ (t.reverse.takeWhile (Text.isBlank ·.1)).reverse := by
    rw [trimEndMarked, ← List.reverse_append, List.takeWhile_append_dropWhile, List.reverse_reverse]
  rw [whole] at carried
  apply carriedFront carried
  cases first : (plain (t.reverse.takeWhile (Text.isBlank ·.1)).reverse).head? with
  | none => rfl
  | some d =>
    obtain ⟨x, inside, rfl⟩ := List.mem_map.mp (List.mem_of_head? first)
    have blank := List.all_eq_true.mp List.all_takeWhile x (List.mem_reverse.mp inside)
    simp [isBoundary, (Text.blankOutsideWords blank).1]

theorem attributedCarried (c : Circumstances) (intent : String) :
    Carried (attributedMarked c intent) [intent.toList, (attribution c).toList] := by
  have tail : Carried (kept (attribution c).toList) [intent.toList, (attribution c).toList] :=
    carriedAmong (carriedKept _) (by simp)
  have soft : Carried (trimEndMarked (Tone.softenMarked intent))
      [intent.toList, (attribution c).toList] :=
    carriedAmong (trimEndCarried (Tone.softenCarried intent)) (by simp)
  unfold attributedMarked
  dsimp only
  split
  · exact tail
  · exact carriedJoin soft tail (by simp [written]) (fun _ => writtenTouched)

theorem hedgedCarried (growth : String) : Carried (hedgedMarked growth) [growth.toList] := by
  unfold hedgedMarked
  dsimp only
  split
  · exact carriedWritten _ _
  · exact carriedJoin (carriedWritten _ _) (Tone.softenCarried growth) (by simp [written])
      (fun _ => writtenTouched)

def Excused (terms : List String) (sources : List String) (term : List Char) (rest : MarkedText) :
    Prop :=
  ¬ Untouched (rest.take term.length) ∨
    ∃ source ∈ sources, ∃ front back, source.toList = front ++ back ∧
      Stands term front.getLast? back ∧ ∃ other, Hides (ofTerms terms).ordered other term front.getLast? back

structure Shows (keywords : List String) (t : MarkedText) (keyword : String) (before rest : MarkedText) :
    Prop where
  listed : keyword ∈ keywords
  filled : Text.trim keyword ≠ ""
  split : t = before ++ rest
  stands : Stands (Text.trim keyword).toList (plain before).getLast? (plain rest)

theorem foundShown {keywords : List String} {t : MarkedText}
    (found : (ofTerms keywords).findMatches (String.ofList (plain t)) ≠ []) :
    ∃ keyword before rest, Shows keywords t keyword before rest := by
  obtain ⟨keyword, listed, filled, before, rest, split, stands, _⟩ := foundUnhidden found
  rw [String.toList_ofList] at split
  obtain ⟨front, back, rfl, rfl, rfl⟩ := List.map_eq_append_iff.mp split
  exact ⟨keyword, front, back, listed, filled, rfl, stands⟩

theorem shownExcused {keywords sources : List String}
    (unfound : ∀ source ∈ sources, (ofTerms keywords).findMatches source = []) {published : MarkedText}
    (carried : Carried published (sources.map String.toList)) {keyword : String}
    {before rest : MarkedText} (shows : Shows keywords published keyword before rest) :
    Excused keywords sources (Text.trim keyword).toList rest := by
  obtain ⟨listed, filled, split, stands⟩ := shows
  by_cases untouched : Untouched (rest.take (Text.trim keyword).toList.length)
  -- An untouched place was carried over from a source, where the scan must have passed it.
  · subst split
    have some := orderedNonempty (memOrdered.mpr ⟨keyword, listed, filled, rfl⟩)
    obtain ⟨_, among, front, back, same, there⟩ := untouchedStands carried some stands untouched
    obtain ⟨source, here, rfl⟩ := List.mem_map.mp among
    exact .inr ⟨source, here, front, back, same, there,
      standingHidden (unfound source here) listed filled same there⟩
  · exact .inl untouched

theorem passedUnfound {s : PipelineSettings} {profile : MissionProfile} {c : Circumstances} {n : Narrative}
    (passed : ((Pipeline.standard s (some profile)).run c n).status = .passed) :
    ∀ source ∈ [n.intent, n.growth, attribution c], (ofTerms profile.keywords).findMatches source = [] := by
  have clear := (Pipeline.standardPasses.mp passed).2
  rw [Pipeline.gatekeeperStops] at clear
  simp only [Option.some.injEq, exists_eq_left', not_or, not_not] at clear
  simpa using clear

/-- What a passed run publishes shows a keyword only where a stage wrote a part of it, or where the
scan of what the gatekeeper read had given it up for another. -/
theorem publishedKeywordsExcused {s : PipelineSettings} {profile : MissionProfile} {c : Circumstances}
    {n : Narrative} (passed : ((Pipeline.standard s (some profile)).run c n).status = .passed) :
    (∀ source ∈ [n.intent, n.growth, attribution c],
      (ofTerms profile.keywords).findMatches source = []) ∧
    ∃ growth ∈ [Tone.softenMarked n.growth, hedgedMarked n.growth],
      ((Pipeline.standard s (some profile)).run c n).narrative.intent.toList =
        plain (attributedMarked c n.intent) ∧
      ((Pipeline.standard s (some profile)).run c n).narrative.growth.toList = plain growth ∧
      ∀ published ∈ [attributedMarked c n.intent, growth],
        ((ofTerms profile.keywords).findMatches (String.ofList (plain published)) ≠ [] →
          ∃ keyword before rest, Shows profile.keywords published keyword before rest) ∧
        ∀ keyword before rest, Shows profile.keywords published keyword before rest →
          Excused profile.keywords [n.intent, n.growth, attribution c] (Text.trim keyword).toList rest := by
  have unfound := passedUnfound passed
  obtain ⟨intent, growths⟩ := Pipeline.standardTexts passed
  have intentCarried : Carried (attributedMarked c n.intent)
      ([n.intent, n.growth, attribution c].map String.toList) :=
    carriedAmong (attributedCarried c n.intent) (by simp)
  refine ⟨unfound, ?_⟩
  obtain ⟨growth, either, same, carried⟩ : ∃ growth ∈ [Tone.softenMarked n.growth, hedgedMarked n.growth],
      ((Pipeline.standard s (some profile)).run c n).narrative.growth.toList = plain growth ∧
        Carried growth ([n.intent, n.growth, attribution c].map String.toList) := by
    rcases growths with soft | hedged
    · exact ⟨_, by simp, by rw [soft, Tone.softenPlain],
        carriedAmong (Tone.softenCarried n.growth) (by simp)⟩
    · exact ⟨_, by simp, by rw [hedged, hedgedPlain], carriedAmong (hedgedCarried n.growth) (by simp)⟩
  refine ⟨growth, either, by rw [intent, attributedPlain], same, ?_⟩
  intro published among
  have publishedCarried : Carried published ([n.intent, n.growth, attribution c].map String.toList) := by
    rcases List.mem_pair.mp among with rfl | rfl
    · exact intentCarried
    · exact carried
  constructor
  · exact foundShown
  · intro keyword before rest shows
    exact shownExcused unfound publishedCarried shows

def unmatched : Circumstances where
  bestId := none
  score := 0.9
  metric := .cosine
  provenance := ∅
  trace := []
  layerActivity := ∅
  history := []

def failing : Narrative := ⟨"A failure.", "", []⟩

theorem unmatchedAttribution : attribution unmatched =
    "Sources: extractors [none]; rule inferences 0; world-model inferences 0; logical rules 0; matched none (cosine)." := by
  have engines : (Std.TreeSet.ofList unmatched.provenance.values).toList = [] := by decide
  unfold attribution
  rw [engines]
  decide

theorem failingPasses :
    ((Pipeline.standard {} (some ⟨["setback"]⟩)).run unmatched failing).status = .passed := by
  have allowed : (ofTerms defaultEthicsTerms).findMatches failing.intent = [] ∧
      (ofTerms defaultEthicsTerms).findMatches failing.growth = [] := ⟨by cbv, by cbv⟩
  have silent : (ofTerms ["setback"]).findMatches failing.intent = [] ∧
      (ofTerms ["setback"]).findMatches failing.growth = [] ∧
      (ofTerms ["setback"]).findMatches (attribution unmatched) = [] := by
    rw [unmatchedAttribution]
    exact ⟨by cbv, by cbv, by cbv⟩
  rw [Pipeline.standardPasses, Pipeline.ethicsStops, Pipeline.gatekeeperStops]
  simp [allowed, silent]

theorem failingExcused :
    ((Pipeline.standard {} (some ⟨["setback"]⟩)).run unmatched failing).status = .passed ∧
      ∀ keyword before rest,
        Shows ["setback"] (attributedMarked unmatched "A failure.") keyword before rest →
          Excused ["setback"] ["A failure.", "", attribution unmatched] (Text.trim keyword).toList rest := by
  obtain ⟨_, growth, _, _, _, all⟩ := publishedKeywordsExcused failingPasses
  exact ⟨failingPasses, (all _ List.mem_cons_self).2⟩

/-- The keyword stands where the failure was softened. -/
theorem softenedIntoKeyword :
    ((Pipeline.standard {} (some ⟨["setback"]⟩)).run unmatched failing).status = .passed ∧
      (ofTerms ["setback"]).findMatches
        ((Pipeline.standard {} (some ⟨["setback"]⟩)).run unmatched failing).narrative.intent ≠ [] := by
  refine ⟨failingPasses, ?_⟩
  have soft : (Tone.soften failing.intent).1 = "A setback." := by cbv
  rw [(Pipeline.standardTexts failingPasses).1, soft, Pipeline.attributed, unmatchedAttribution]
  cbv
  exact List.cons_ne_nil _ _

end ConceptSpace
