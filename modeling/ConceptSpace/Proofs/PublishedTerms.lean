import ConceptSpace.Proofs.PublishedTexts

/-! Forbidden terms in what the standard chain publishes.
The ethics filter reads the two texts that come in and nothing else, so of a published text only the
stretches that were carried over are told by its scan. The attribution is written after it, as the
replacements and the hedge are. -/
namespace ConceptSpace
open Redactor MarkedText

def signedMarked (c : Circumstances) (intent : String) : MarkedText :=
  let soft := Tone.softenMarked intent
  if soft.isEmpty then written (attribution c).toList
  else trimEndMarked soft ++ (written [' '] ++ written (attribution c).toList)

theorem signedPlain (c : Circumstances) (intent : String) :
    plain (signedMarked c intent) = (Pipeline.attributed c (Tone.soften intent).1).toList := by
  rw [← attributedPlain]
  unfold signedMarked attributedMarked
  dsimp only
  split
  · rw [plainWritten, plainKept]
  · simp only [plainAppend, plainWritten, plainKept]

theorem signedCarried (c : Circumstances) (intent : String) :
    Carried (signedMarked c intent) [intent.toList] := by
  unfold signedMarked
  dsimp only
  split
  · exact carriedWritten _ _
  · exact carriedJoin (trimEndCarried (Tone.softenCarried intent)) (carriedWritten _ _)
      (by simp [written]) (fun _ => writtenTouched)

variable {s : PipelineSettings} {mission : Option MissionProfile} {c : Circumstances} {n : Narrative}

theorem publishedGrowth (passed : ((Pipeline.standard s mission).run c n).status = .passed) :
    ∃ growth ∈ [Tone.softenMarked n.growth, hedgedMarked n.growth],
      ((Pipeline.standard s mission).run c n).narrative.growth.toList = plain growth ∧
        Carried growth [n.growth.toList] := by
  rcases (Pipeline.standardTexts passed).2 with soft | behind
  · exact ⟨_, List.mem_cons_self, by rw [soft, Tone.softenPlain], Tone.softenCarried n.growth⟩
  · exact ⟨_, List.mem_cons_of_mem _ List.mem_cons_self, by rw [behind, hedgedPlain],
      hedgedCarried n.growth⟩

theorem passedAllowed (passed : ((Pipeline.standard s mission).run c n).status = .passed) :
    ∀ source ∈ [n.intent, n.growth], (ofTerms s.ethicsTerms).findMatches source = [] := by
  have clear := (Pipeline.standardPasses.mp passed).1
  rw [Pipeline.ethicsStops] at clear
  simp only [not_or, not_not] at clear
  simpa using clear

/-- What a passed run publishes shows a forbidden term only where a stage after the filter wrote a part
of it, or where the filter's scan of the text that came in had given the place up for another term. -/
theorem publishedTermsExcused
    (passed : ((Pipeline.standard s mission).run c n).status = .passed) :
    (∀ source ∈ [n.intent, n.growth], (ofTerms s.ethicsTerms).findMatches source = []) ∧
    ∃ growth ∈ [Tone.softenMarked n.growth, hedgedMarked n.growth],
      ((Pipeline.standard s mission).run c n).narrative.intent.toList = plain (signedMarked c n.intent) ∧
      ((Pipeline.standard s mission).run c n).narrative.growth.toList = plain growth ∧
      ∀ published ∈ [(signedMarked c n.intent, n.intent), (growth, n.growth)],
        ((ofTerms s.ethicsTerms).findMatches (String.ofList (plain published.1)) ≠ [] →
          ∃ term before rest, Shows s.ethicsTerms published.1 term before rest) ∧
        ∀ term before rest, Shows s.ethicsTerms published.1 term before rest →
          Excused s.ethicsTerms [published.2] (Text.trim term).toList rest := by
  have unfound := passedAllowed passed
  have intent := (Pipeline.standardTexts passed).1
  obtain ⟨growth, either, same, carried⟩ := publishedGrowth passed
  refine ⟨unfound, growth, either, by rw [intent, signedPlain], same, ?_⟩
  intro published among
  have source : published.2 ∈ [n.intent, n.growth] ∧ Carried published.1 [published.2.toList] := by
    rcases List.mem_pair.mp among with rfl | rfl
    · refine ⟨List.mem_cons_self, ?_⟩
      dsimp only
      exact signedCarried c n.intent
    · exact ⟨List.mem_cons_of_mem _ List.mem_cons_self, carried⟩
  refine ⟨foundShown, ?_⟩
  intro term before rest shows
  apply shownExcused _ source.2 shows
  intro only listed
  rw [List.mem_singleton.mp listed]
  exact unfound _ source.1

def armed : Circumstances :=
  { unmatched with provenance := (∅ : Std.TreeMap String String).insert "hue" "weapon" }

def unanswered : Narrative := ⟨"No match: the library holds no comparable vector.", "", []⟩

theorem armedAttribution : attribution armed =
    "Sources: extractors [weapon]; rule inferences 0; world-model inferences 0; logical rules 0; matched none (cosine)." := by
  have engines : (Std.TreeSet.ofList armed.provenance.values).toList = ["weapon"] := by decide
  unfold attribution
  rw [engines]
  decide

theorem passesUnguarded (allowed : (ofTerms s.ethicsTerms).findMatches n.intent = [] ∧
    (ofTerms s.ethicsTerms).findMatches n.growth = []) :
    ((Pipeline.standard s none).run c n).status = .passed := by
  rw [Pipeline.standardPasses, Pipeline.ethicsStops, Pipeline.gatekeeperStops]
  simp [allowed]

theorem armedPasses : ((Pipeline.standard {} none).run armed unanswered).status = .passed := by
  have allowed : (ofTerms defaultEthicsTerms).findMatches unanswered.intent = [] ∧
      (ofTerms defaultEthicsTerms).findMatches unanswered.growth = [] := ⟨by cbv, by cbv⟩
  exact passesUnguarded allowed

theorem armedExcused :
    ((Pipeline.standard {} none).run armed unanswered).status = .passed ∧
      ∀ term before rest, Shows defaultEthicsTerms (signedMarked armed unanswered.intent) term before rest →
        Excused defaultEthicsTerms [unanswered.intent] (Text.trim term).toList rest := by
  obtain ⟨_, growth, _, _, _, all⟩ := publishedTermsExcused armedPasses
  exact ⟨armedPasses, (all _ List.mem_cons_self).2⟩

theorem defaultTermsApart : ∀ a ∈ (ofTerms defaultEthicsTerms).ordered,
    ∀ b ∈ (ofTerms defaultEthicsTerms).ordered, Text.startsAlike a b = true → a.length = b.length := by
  have ordered : (ofTerms defaultEthicsTerms).ordered = ["self-harm".toList, "violence".toList,
      "exploit".toList, "weapon".toList, "abuse".toList, "hate".toList] := by cbv
  rw [ordered]
  decide

theorem armedIntent : ((Pipeline.standard {} none).run armed unanswered).narrative.intent =
    "No match: the library holds no comparable vector. Sources: extractors [" ++
      "weapon]; rule inferences 0; world-model inferences 0; logical rules 0; matched none (cosine)." := by
  have soft : (Tone.soften unanswered.intent).1 = unanswered.intent := by cbv
  have filled : ¬ unanswered.intent.isEmpty = true := by decide
  have trimmed : Text.trimEnd unanswered.intent = unanswered.intent := by cbv
  rw [(Pipeline.standardTexts armedPasses).1, soft, Pipeline.attributed, if_neg filled, trimmed,
    armedAttribution]
  simp [unanswered]

theorem armedFound : (ofTerms defaultEthicsTerms).findMatches
    ((Pipeline.standard {} none).run armed unanswered).narrative.intent ≠ [] := by
  have listed : "weapon" ∈ defaultEthicsTerms := by decide
  have split : ((Pipeline.standard {} none).run armed unanswered).narrative.intent.toList =
      "No match: the library holds no comparable vector. Sources: extractors [".toList ++
        "weapon]; rule inferences 0; world-model inferences 0; logical rules 0; matched none (cosine).".toList := by
    rw [armedIntent, String.toList_append]
  exact standingTermFound defaultTermsApart listed (by cbv) split (by cbv)

def onlySetback : Pipeline := .standard { ethicsTerms := ["setback"] } none

theorem setbackPasses : (onlySetback.run unmatched failing).status = .passed := by
  have allowed : (ofTerms ["setback"]).findMatches failing.intent = [] ∧
      (ofTerms ["setback"]).findMatches failing.growth = [] := ⟨by cbv, by cbv⟩
  exact passesUnguarded allowed

theorem setbackIntent : (onlySetback.run unmatched failing).narrative.intent.toList =
    "A ".toList ++ ("setback.".toList ++ (" " ++ attribution unmatched).toList) := by
  have soft : (Tone.soften failing.intent).1 = "A setback." := by cbv
  have filled : ¬ "A setback.".isEmpty = true := by decide
  have trimmed : Text.trimEnd "A setback." = "A setback." := by cbv
  have written := (Pipeline.standardTexts setbackPasses).1
  rw [soft, Pipeline.attributed, if_neg filled, trimmed] at written
  rw [onlySetback, written]
  simp

theorem setbackFound :
    (ofTerms ["setback"]).findMatches (onlySetback.run unmatched failing).narrative.intent ≠ [] := by
  have alone : ∀ a ∈ (ofTerms ["setback"]).ordered, ∀ b ∈ (ofTerms ["setback"]).ordered,
      Text.startsAlike a b = true → a.length = b.length := by
    intro a listedA b listedB _
    rw [show (ofTerms ["setback"]).ordered = ["setback".toList] by cbv] at listedA listedB
    rw [List.mem_singleton.mp listedA, List.mem_singleton.mp listedB]
  have stands (tail : List Char) :
      Stands (Text.trim "setback").toList "A ".toList.getLast? ("setback.".toList ++ tail) := by
    rw [show Text.trim "setback" = "setback" by cbv]
    refine ⟨rfl, by decide, ?_⟩
    change isBoundary (some '.') = true
    decide
  exact standingTermFound alone List.mem_cons_self (by cbv) setbackIntent (stands _)

/-- The engine's name is appended after the filter, and the failure is softened into the term. -/
theorem laterTermsPublished :
    (((Pipeline.standard {} none).run armed unanswered).status = .passed ∧
      (ofTerms defaultEthicsTerms).findMatches
        ((Pipeline.standard {} none).run armed unanswered).narrative.intent ≠ []) ∧
    (((Pipeline.standard { ethicsTerms := ["setback"] } none).run unmatched failing).status = .passed ∧
      (ofTerms ["setback"]).findMatches
        ((Pipeline.standard { ethicsTerms := ["setback"] } none).run unmatched failing).narrative.intent ≠ []) :=
  ⟨⟨armedPasses, armedFound⟩, setbackPasses, setbackFound⟩

end ConceptSpace
