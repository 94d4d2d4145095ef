import ConceptSpace.Proofs.StandardRun

/-! The log is only written.
No stage of the standard chain looks at it, so a run adds the same lines to whatever log it is given. -/
namespace ConceptSpace

def Narrative.relog (n : Narrative) (log : List String) : Narrative := { n with auditLog := log }

namespace Pipeline

def Deaf (c : Circumstances) (stage : Stage) : Prop :=
  ∀ n log, stage.apply c (n.relog log) = ((stage.apply c n).1.relog log, (stage.apply c n).2)

variable {marker : String} {c : Circumstances} {stage : Stage} {stages : List Stage}

theorem deafSilent (deaf : Deaf c stage) (n : Narrative) : (stage.apply c n).1.auditLog = n.auditLog :=
  congrArg (fun out => out.1.auditLog) (deaf n n.auditLog)

theorem deafAfter (deaf : Deaf c stage) (n : Narrative) (log : List String) :
    after c (n.relog log) stage =
      (after c n stage).relog (log ++ [entry stage (stage.apply c n).2]) := by
  rw [after, deaf]
  rfl

theorem deafStops (deaf : Deaf c stage) {n : Narrative} {log : List String} :
    Stops c stage (n.relog log) ↔ Stops c stage n := by
  rw [Stops, Stops, deaf]

theorem runRelogged (deaf : ∀ stage ∈ stages, Deaf c stage) (n : Narrative) :
    ∃ lines, ∀ log, runStages marker c stages (n.relog log) =
      { runStages marker c stages n with
        narrative := (runStages marker c stages n).narrative.relog (log ++ lines) } := by
  induction stages generalizing n with
  | nil => exact ⟨[], fun log => by rw [List.append_nil]; rfl⟩
  | cons stage rest ih =>
    have here := deaf stage List.mem_cons_self
    by_cases stops : Stops c stage n
    · obtain ⟨reason, blocks, ends⟩ := @endsHere marker c stage n stops
      refine ⟨["[" ++ stage.name ++ "] " ++ "BLOCKED: " ++ reason], fun log => ?_⟩
      have stopped : Stops c stage (n.relog log) := (deafStops here).mpr stops
      obtain ⟨reason', blocks', ends'⟩ := @endsHere marker c stage _ stopped
      rw [here, blocks] at blocks'
      cases blocks'
      rw [ends, ends', here]
      rfl
    · obtain ⟨lines, grown⟩ := ih (fun s mem => deaf s (List.mem_cons_of_mem _ mem)) (after c n stage)
      refine ⟨entry stage (stage.apply c n).2 :: lines, fun log => ?_⟩
      have goes : ¬ Stops c stage (n.relog log) := mt (deafStops here).mp stops
      rw [goesOn stops, goesOn goes, deafAfter here, grown, here, List.append_assoc]
      rfl

variable {mission : Option MissionProfile}

theorem keptDeaf (keeps : ∀ n, (stage.apply c n).1 = n)
    (blind : ∀ n log, (stage.apply c (n.relog log)).2 = (stage.apply c n).2) : Deaf c stage := by
  intro n log
  rw [keeps n]
  exact Prod.ext (keeps _) (blind n log)

theorem ethicsDeaf (terms : List String) : Deaf c (ethicsFilter terms) := by
  apply keptDeaf fun _ => ethicsKeeps terms
  intro n log
  simp only [ethicsFilter, Narrative.relog, apply_ite Prod.snd]

theorem gatekeeperDeaf : Deaf c (publicationGatekeeper mission) := by
  apply keptDeaf fun _ => gatekeeperKeeps
  intro n log
  simp only [publicationGatekeeper, Narrative.relog]
  cases missionRedactor? mission with
  | none => rfl
  | some redactor => simp only [apply_ite Prod.snd]

theorem nuanceDeaf (weak negative : Float) : Deaf c (emotionalNuance weak negative) := by
  intro n log
  simp only [emotionalNuance, Narrative.relog]
  split
  · rfl
  · rfl

theorem balanceDeaf (dominance : Float) : Deaf c (balanceChecker dominance) := by
  apply keptDeaf fun _ => balanceKeeps dominance
  intro n log
  rfl

theorem growthDeaf (novelty : Float) : Deaf c (growthTracker novelty) := by
  apply keptDeaf fun _ => growthKeeps novelty
  intro n log
  simp only [growthTracker, Narrative.relog, apply_ite Prod.snd]

theorem anomalyDeaf (threshold : Float) (samples : Nat) : Deaf c (anomalyMonitor threshold samples) := by
  apply keptDeaf fun _ => anomalyKeeps threshold samples
  intro n log
  unfold anomalyMonitor Narrative.relog
  dsimp only [Narrative.combinedLength]
  repeat' split
  all_goals rfl

theorem standardDeaf (s : PipelineSettings) (mission : Option MissionProfile) :
    ∀ stage ∈ (standard s mission).stages, Deaf c stage := by
  intro stage listed
  simp only [standard, List.mem_cons, List.not_mem_nil, or_false] at listed
  rcases listed with rfl | rfl | rfl | rfl | rfl | rfl | rfl | rfl
  · exact ethicsDeaf _
  · exact gatekeeperDeaf
  · intro n log
    simp only [toneAdjuster, Narrative.relog]
  · exact nuanceDeaf _ _
  · intro n log
    simp only [integrityTracker, Narrative.relog]
  · exact balanceDeaf _
  · exact growthDeaf _
  · exact anomalyDeaf _ _

end Pipeline

end ConceptSpace
