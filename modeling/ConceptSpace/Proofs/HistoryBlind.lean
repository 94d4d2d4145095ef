import ConceptSpace.Analysis.Draft
import ConceptSpace.Proofs.StandardRun

/-! How far the history reaches.
The first six stages of the standard chain do not look at it, so a run comes to the last two with the
same narrative whatever is remembered. Those two neither stop a run nor change a text: each writes
one line, and may warn. -/
namespace ConceptSpace

def SameLine (a b : String) : Prop :=
  a = b ∨ ∃ name ∈ ["growth_tracker", "anomaly_monitor"], Tagged name a ∧ Tagged name b

structure PipelineResult.Alike (r q : PipelineResult) : Prop where
  status : r.status = q.status
  intent : r.narrative.intent = q.narrative.intent
  growth : r.narrative.growth = q.narrative.growth
  auditLog : List.Forall₂ SameLine r.narrative.auditLog q.narrative.auditLog

structure Report.Alike (r q : Report) : Prop where
  status : r.status = q.status
  bestId : r.bestId = q.bestId
  score : r.score = q.score
  metric : r.metric = q.metric
  vector : r.vector = q.vector
  trace : r.trace = q.trace
  intent : r.intent = q.intent
  growth : r.growth = q.growth
  auditLog : List.Forall₂ SameLine r.auditLog q.auditLog

namespace Pipeline
variable {marker : String} {c : Circumstances} {n : Narrative}

theorem blindRun {c' : Circumstances} {stages : List Stage}
    (blind : ∀ stage ∈ stages, ∀ n, stage.apply c n = stage.apply c' n) :
    runStages marker c stages n = runStages marker c' stages n := by
  induction stages generalizing n with
  | nil => rfl
  | cons stage rest ih =>
    have later (m : Narrative) := @ih m fun s listed => blind s (List.mem_cons_of_mem _ listed)
    simp only [runStages, blind stage List.mem_cons_self n, later]

theorem stoppedAppend {first second : List Stage}
    (stopped : (runStages marker c first n).status ≠ .passed) :
    (runStages marker c (first ++ second) n).status = (runStages marker c first n).status ∧
      (runStages marker c (first ++ second) n).narrative = (runStages marker c first n).narrative := by
  induction first generalizing n with
  | nil => exact absurd rfl stopped
  | cons stage rest ih =>
    by_cases stops : Stops c stage n
    · obtain ⟨_, _, ends⟩ := @endsHere marker _ _ _ stops
      rw [List.cons_append, ends, ends]
      exact ⟨rfl, rfl⟩
    · rw [(runGoes stops).1] at stopped
      rw [List.cons_append, (runGoes stops).1, (runGoes stops).2, (runGoes stops).1, (runGoes stops).2]
      exact ih stopped

theorem passedAppend {first second : List Stage}
    (passed : (runStages marker c first n).status = .passed) :
    (runStages marker c (first ++ second) n).status =
        (runStages marker c second (runStages marker c first n).narrative).status ∧
      (runStages marker c (first ++ second) n).narrative =
        (runStages marker c second (runStages marker c first n).narrative).narrative := by
  induction first generalizing n with
  | nil => exact ⟨rfl, rfl⟩
  | cons stage rest ih =>
    obtain ⟨goes, later⟩ := passedStep.mp passed
    rw [List.cons_append, (runGoes goes).1, (runGoes goes).2, (runGoes goes).2]
    exact ih later

theorem afterKept {stage : Stage} (keeps : (stage.apply c n).1 = n) :
    ∃ line, Tagged stage.name line ∧ after c n stage = n.log line := by
  unfold after
  rw [keeps]
  exact ⟨_, entryTagged _ _, rfl⟩

variable (s : PipelineSettings) (mission : Option MissionProfile)

def textStages : List Stage := [
  ethicsFilter s.ethicsTerms, publicationGatekeeper mission, toneAdjuster, emotionalNuance,
  integrityTracker, balanceChecker s.dominance]

def memoryStages : List Stage := [
  growthTracker s.novelty, anomalyMonitor s.anomalyThreshold s.anomalySamples]

theorem standardSplit : (standard s mission).stages = textStages s mission ++ memoryStages s := rfl

theorem textStagesBlind (h h' : List NarrativeRecord) :
    ∀ stage ∈ textStages s mission, ∀ n,
      stage.apply { c with history := h } n = stage.apply { c with history := h' } n := by
  intro stage listed n
  simp only [textStages, List.mem_cons, List.not_mem_nil, or_false] at listed
  rcases listed with rfl | rfl | rfl | rfl | rfl | rfl
  all_goals rfl

theorem memoryStagesTell : (runStages marker c (memoryStages s) n).status = .passed ∧
    ∃ novelty habit, Tagged "growth_tracker" novelty ∧ Tagged "anomaly_monitor" habit ∧
      (runStages marker c (memoryStages s) n).narrative = (n.log novelty).log habit := by
  have passed : (runStages marker c (memoryStages s) n).status = .passed := by
    rw [memoryStages, passedStep, passedStep]
    exact ⟨advisoryGoes rfl, advisoryGoes rfl, rfl⟩
  obtain ⟨novelty, taggedNovelty, kept⟩ := @afterKept c n _ (growthKeeps s.novelty)
  obtain ⟨habit, taggedHabit, keptAgain⟩ :=
    @afterKept c (n.log novelty) _ (anomalyKeeps s.anomalyThreshold s.anomalySamples)
  refine ⟨passed, novelty, habit, taggedNovelty, taggedHabit, ?_⟩
  rw [passedNarrative passed, memoryStages, List.foldl_cons, List.foldl_cons, kept, keptAgain,
    List.foldl_nil]

theorem standardAlike (h h' : List NarrativeRecord) :
    ((standard s mission).run { c with history := h } n).Alike
      ((standard s mission).run { c with history := h' } n) := by
  unfold run
  rw [standardSplit]
  generalize (standard s mission).marker = marker
  have same : runStages marker { c with history := h } (textStages s mission) n =
      runStages marker { c with history := h' } (textStages s mission) n :=
    blindRun (textStagesBlind s mission h h')
  have equal (log : List String) : List.Forall₂ SameLine log log :=
    List.forall₂_same.mpr fun _ _ => .inl rfl
  -- A run that is stopped has not come to the two stages that remember.
  by_cases passed : (runStages marker { c with history := h } (textStages s mission) n).status = .passed
  · have passed' := same ▸ passed
    obtain ⟨ends, a, b, taggedA, taggedB, told⟩ := @memoryStagesTell marker { c with history := h }
      (runStages marker { c with history := h } (textStages s mission) n).narrative s
    obtain ⟨ends', a', b', taggedA', taggedB', told'⟩ := @memoryStagesTell marker { c with history := h' }
      (runStages marker { c with history := h } (textStages s mission) n).narrative s
    have sameA : SameLine a a' := .inr ⟨_, List.mem_cons_self, taggedA, taggedA'⟩
    have sameB : SameLine b b' :=
      .inr ⟨_, List.mem_cons_of_mem _ List.mem_cons_self, taggedB, taggedB'⟩
    constructor
    · rw [(passedAppend passed).1, (passedAppend passed').1, ← same, ends, ends']
    · rw [(passedAppend passed).2, (passedAppend passed').2, ← same, told, told']
      rfl
    · rw [(passedAppend passed).2, (passedAppend passed').2, ← same, told, told']
      rfl
    · rw [(passedAppend passed).2, (passedAppend passed').2, ← same, told, told']
      exact List.rel_append (List.rel_append (equal _) (.cons sameA .nil)) (.cons sameB .nil)
  · have stopped' := same ▸ passed
    constructor
    · rw [(stoppedAppend passed).1, (stoppedAppend stopped').1, same]
    · rw [(stoppedAppend passed).2, (stoppedAppend stopped').2, same]
    · rw [(stoppedAppend passed).2, (stoppedAppend stopped').2, same]
    · rw [(stoppedAppend passed).2, (stoppedAppend stopped').2, same]
      exact equal _

end Pipeline

namespace Draft

theorem startPipeline (settings : Settings) (pipeline : PipelineSettings) (narrator : Narrator)
    (knowledge : Knowledge) (request : AnalysisRequest) :
    (start settings pipeline narrator knowledge request).pipeline = .standard pipeline knowledge.mission := by
  unfold start
  dsimp only
  split
  · rfl
  · rfl

theorem finishAlike {d : Draft} {pipeline : PipelineSettings} {mission : Option MissionProfile}
    (standard : d.pipeline = .standard pipeline mission)
    (h h' : Except Fault (List NarrativeRecord)) : (d.finish h).Alike (d.finish h') := by
  have alike := @Pipeline.standardAlike (d.circumstances []) d.narrative pipeline mission
    (h.toOption.getD []) (h'.toOption.getD [])
  rw [← standard] at alike
  constructor
  · have ends : ∀ r q : PipelineResult, r.status = q.status → d.status r = d.status q := by
      intro r q same
      rw [status, status, PipelineResult.isBlocked, PipelineResult.isBlocked, same]
    exact ends _ _ alike.status
  · rfl
  · rfl
  · rfl
  · rfl
  · rfl
  · exact alike.intent
  · exact alike.growth
  · exact alike.auditLog

end Draft

end ConceptSpace
