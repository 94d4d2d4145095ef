import ConceptSpace.Proofs.KeywordScan
import ConceptSpace.Proofs.StageRun

/-! The standard chain of stages.
Only its first two stages may stop it, and what they read is what came in; the texts that it ends
with are those that the three stages after them write. -/
namespace ConceptSpace.Pipeline
open Redactor

variable {c : Circumstances} {n : Narrative} {mission : Option MissionProfile}

theorem advisoryGoes {stage : Stage} (advisory : stage.isBlocking = false) : ¬ Stops c stage n := by
  intro stops
  rw [stops.1] at advisory
  cases advisory

theorem ethicsKeeps (terms : List String) : ((ethicsFilter terms).apply c n).1 = n := by
  unfold ethicsFilter
  dsimp only
  split
  · rfl
  · rfl

theorem gatekeeperKeeps : ((publicationGatekeeper mission).apply c n).1 = n := by
  unfold publicationGatekeeper
  dsimp only
  split
  · rfl
  · split
    · rfl
    · rfl

theorem noHits {first second : List String} :
    (first ++ second).eraseDups.isEmpty = true ↔ first = [] ∧ second = [] := by
  rw [List.isEmpty_iff, eraseDupsNil, List.append_eq_nil_iff]

theorem ethicsStops {terms : List String} :
    Stops c (ethicsFilter terms) n ↔
      (ofTerms terms).findMatches n.intent ≠ [] ∨ (ofTerms terms).findMatches n.growth ≠ [] := by
  unfold Stops ethicsFilter
  dsimp only
  split
  · rename_i clear
    obtain ⟨noIntent, noGrowth⟩ := noHits.mp clear
    simp [noIntent, noGrowth]
  · rename_i found
    rw [noHits] at found
    simp only [true_and, Verdict.block.injEq, exists_eq', true_iff]
    by_contra neither
    simp only [ne_eq, not_or, not_not] at neither
    exact found neither

theorem idleFindsNothing {r : Redactor} (idle : r.isActive = false) (text : String) :
    r.findMatches text = [] := by
  have empty : r.terms = [] := by simpa [isActive] using idle
  rw [findMatchesNil]
  intro pre rest _ _ hit
  obtain ⟨term, found, _⟩ := hit
  simp [ordered, empty] at found

theorem gatekeeperStops :
    Stops c (publicationGatekeeper mission) n ↔ ∃ profile, mission = some profile ∧
      ((ofTerms profile.keywords).findMatches n.intent ≠ [] ∨
        (ofTerms profile.keywords).findMatches n.growth ≠ [] ∨
        (ofTerms profile.keywords).findMatches (attribution c) ≠ []) := by
  unfold Stops publicationGatekeeper missionRedactor?
  cases mission with
  | none => simp
  | some profile =>
    rw [Option.map_some, Option.filter_some]
    by_cases active : (ofTerms profile.keywords).isActive = true
    · rw [if_pos active]
      dsimp only
      split
      · rename_i clear
        simp only [List.isEmpty_iff, List.append_eq_nil_iff] at clear
        simp [clear]
      · rename_i found
        simp only [List.isEmpty_iff, List.append_eq_nil_iff, not_and_or, or_assoc] at found
        simpa using found
    · have idle := idleFindsNothing (Bool.not_eq_true _ ▸ active)
      rw [if_neg active]
      simp [idle]

theorem standardPasses {s : PipelineSettings} :
    ((standard s mission).run c n).status = .passed ↔
      ¬ Stops c (ethicsFilter s.ethicsTerms) n ∧ ¬ Stops c (publicationGatekeeper mission) n := by
  have same : Stops c (publicationGatekeeper mission) (after c n (ethicsFilter s.ethicsTerms)) ↔
      Stops c (publicationGatekeeper mission) n := by
    rw [gatekeeperStops, gatekeeperStops]
    simp only [after, ethicsKeeps, Narrative.log]
  unfold run standard
  simp only [passedStep, same]
  simp [advisoryGoes, toneAdjuster, emotionalNuance, integrityTracker, balanceChecker, balanceCheckerBy,
    growthTracker, anomalyMonitor, runStages]

theorem balanceKeeps (dominance : Float) : ((balanceChecker dominance).apply c n).1 = n := rfl

theorem growthKeeps (novelty : Float) : ((growthTracker novelty).apply c n).1 = n := by
  unfold growthTracker
  dsimp only
  repeat' split
  all_goals rfl

theorem anomalyKeeps (threshold : Float) (samples : Nat) :
    ((anomalyMonitor threshold samples).apply c n).1 = n := by
  unfold anomalyMonitor
  dsimp only
  repeat' split
  all_goals rfl

theorem nuanceHedges (weak negative : Float) :
    ((emotionalNuance weak negative).apply c n).1.intent = n.intent ∧
      (((emotionalNuance weak negative).apply c n).1.growth = n.growth ∨
        ((emotionalNuance weak negative).apply c n).1.growth = hedged n.growth) := by
  unfold emotionalNuance
  dsimp only
  split
  · exact ⟨rfl, .inr rfl⟩
  · exact ⟨rfl, .inl rfl⟩

def attributed (c : Circumstances) (intent : String) : String :=
  if intent.isEmpty then attribution c else Text.trimEnd intent ++ " " ++ attribution c

theorem keepsTexts {stage : Stage} (keeps : (stage.apply c n).1 = n) :
    (after c n stage).intent = n.intent ∧ (after c n stage).growth = n.growth := by
  unfold after
  rw [keeps]
  exact ⟨rfl, rfl⟩

theorem standardTexts {s : PipelineSettings} (passed : ((standard s mission).run c n).status = .passed) :
    ((standard s mission).run c n).narrative.intent = attributed c (Tone.soften n.intent).1 ∧
      (((standard s mission).run c n).narrative.growth = (Tone.soften n.growth).1 ∨
        ((standard s mission).run c n).narrative.growth = hedged (Tone.soften n.growth).1) := by
  unfold run at *
  rw [passedNarrative passed]
  obtain ⟨i₁, g₁⟩ := @keepsTexts c n _ (ethicsKeeps s.ethicsTerms)
  obtain ⟨i₂, g₂⟩ := @keepsTexts c (after c n (ethicsFilter s.ethicsTerms)) _ (@gatekeeperKeeps _ _ mission)
  simp only [standard, List.foldl_cons, List.foldl_nil]
  rw [(keepsTexts (anomalyKeeps _ _)).1, (keepsTexts (growthKeeps _)).1, (keepsTexts (balanceKeeps _)).1,
    (keepsTexts (anomalyKeeps _ _)).2, (keepsTexts (growthKeeps _)).2, (keepsTexts (balanceKeeps _)).2]
  -- The two stages that may block leave the texts, so the three that write start from what came in.
  generalize after c (after c n (ethicsFilter s.ethicsTerms)) (publicationGatekeeper mission) = read at *
  obtain ⟨kept, growth⟩ := @nuanceHedges c (after c read toneAdjuster) 0.5 (-0.5)
  have softIntent : (after c read toneAdjuster).intent = (Tone.soften n.intent).1 := by
    rw [← i₁, ← i₂]
    rfl
  have softGrowth : (after c read toneAdjuster).growth = (Tone.soften n.growth).1 := by
    rw [← g₁, ← g₂]
    rfl
  rw [softIntent] at kept
  rw [softGrowth] at growth
  constructor
  · rw [← kept]
    rfl
  · exact growth

end ConceptSpace.Pipeline
