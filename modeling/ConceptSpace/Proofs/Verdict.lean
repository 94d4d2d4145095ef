import ConceptSpace.Proofs.ShortCircuit
import ConceptSpace.Proofs.UnreadLog

/-! The verdict of the standard chain.
Two checks decide it: the filter's of the texts that come in, and the gatekeeper's of those and the
attribution. Past them every stage is heard, and the last three may warn. -/
namespace ConceptSpace.Pipeline
open Redactor

def LoggedBy (names before log : List String) : Prop :=
  ∃ lines, log = before ++ lines ∧ List.Forall₂ Tagged names lines

def Warned (name warning : String) : Prop := ∃ note, warning = name ++ ": " ++ note

def Forbidden (terms : List String) (n : Narrative) : Prop :=
  ∃ text ∈ [n.intent, n.growth], (ofTerms terms).findMatches text ≠ []

def Confidential (mission : Option MissionProfile) (c : Circumstances) (n : Narrative) : Prop :=
  ∃ profile, mission = some profile ∧ (∃ keyword ∈ profile.keywords, Text.trim keyword ≠ "") ∧
    ∃ text ∈ [n.intent, n.growth, attribution c], (ofTerms profile.keywords).findMatches text ≠ []

structure BlockedBy (name : String) (earlier : List String) (marker : String) (n : Narrative)
    (r : PipelineResult) : Prop where
  status : r.status = .blocked name
  intent : r.narrative.intent = marker
  growth : r.narrative.growth = marker
  auditLog : LoggedBy (earlier ++ [name]) n.auditLog r.narrative.auditLog
  warnings : r.warnings = []

def advisers : List String := ["balance_checker", "growth_tracker", "anomaly_monitor"]

structure HeardAll (n : Narrative) (r : PipelineResult) : Prop where
  status : r.status = .passed
  auditLog : LoggedBy (["ethics_filter", "publication_gatekeeper", "tone_adjuster",
    "emotional_nuance", "integrity_tracker"] ++ advisers) n.auditLog r.narrative.auditLog
  warnings : ∃ names, names.Sublist advisers ∧ List.Forall₂ Warned names r.warnings

variable {marker : String} {c : Circumstances} {n : Narrative} {mission : Option MissionProfile}
  {stages : List Stage} (s : PipelineSettings)

theorem passedClear : (runStages marker c stages n).status = .passed ↔ Clear c stages n := by
  induction stages generalizing n with
  | nil => simp [Clear, runStages]
  | cons stage rest ih => rw [passedStep, clearCons, ih]

theorem passedWhole (passed : (runStages marker c stages n).status = .passed) :
    runStages marker c stages n = ⟨stages.foldl (after c) n, .passed, warned c stages n⟩ := by
  have through := clearRun marker (passedClear.mp passed) []
  rwa [List.append_nil, runStages, List.append_nil] at through

theorem loggedNames {before log : List String} (logged : Logged stages before log) :
    LoggedBy (stages.map Stage.name) before log := by
  obtain ⟨lines, grown, tagged⟩ := logged
  exact ⟨lines, grown, List.forall₂_map_left_iff.mpr tagged⟩

theorem warnedNames {voices : List String}
    (quiet : ∀ stage ∈ stages, stage.name ∉ voices → ∀ m, warning? stage (stage.apply c m).2 = none)
    (n : Narrative) : ∃ names, names.Sublist ((stages.map Stage.name).filter (· ∈ voices)) ∧
      List.Forall₂ Warned names (warned c stages n) := by
  induction stages generalizing n with
  | nil => exact ⟨[], .slnil, .nil⟩
  | cons stage rest ih =>
    obtain ⟨names, among, warn⟩ :=
      ih (fun later mem => quiet later (List.mem_cons_of_mem _ mem)) (after c n stage)
    rw [warnedCons, List.map_cons]
    by_cases voiced : stage.name ∈ voices
    · rw [List.filter_cons_of_pos (by simpa using voiced)]
      cases (stage.apply c n).2 with
      | warn note => exact ⟨stage.name :: names, among.cons_cons _, .cons ⟨note, rfl⟩ warn⟩
      | pass note => exact ⟨names, among.cons _, warn⟩
      | block reason => exact ⟨names, among.cons _, warn⟩
    · rw [List.filter_cons_of_neg (by simpa using voiced), quiet stage List.mem_cons_self voiced]
      exact ⟨names, among, warn⟩

theorem ethicsQuiet (terms : List String) :
    warning? (ethicsFilter terms) ((ethicsFilter terms).apply c n).2 = none := by
  simp only [ethicsFilter]
  split
  · rfl
  · rfl

theorem gatekeeperQuiet :
    warning? (publicationGatekeeper mission) ((publicationGatekeeper mission).apply c n).2 = none := by
  simp only [publicationGatekeeper]
  split
  · rfl
  · split
    · rfl
    · rfl

theorem nuanceQuiet (weak negative : Float) :
    warning? (emotionalNuance weak negative) ((emotionalNuance weak negative).apply c n).2 = none := by
  simp only [emotionalNuance]
  split
  · rfl
  · rfl

theorem standardQuiet : ∀ stage ∈ (standard s mission).stages, stage.name ∉ advisers →
    ∀ m, warning? stage (stage.apply c m).2 = none := by
  intro stage listed voiceless m
  simp only [standard, List.mem_cons, List.not_mem_nil, or_false] at listed
  rcases listed with rfl | rfl | rfl | rfl | rfl | rfl | rfl | rfl
  · exact ethicsQuiet _
  · exact gatekeeperQuiet
  · rfl
  · exact nuanceQuiet _ _
  · rfl
  all_goals simp [advisers, balanceChecker, balanceCheckerBy, growthTracker, anomalyMonitor] at voiceless

theorem forbiddenStops : Stops c (ethicsFilter s.ethicsTerms) n ↔ Forbidden s.ethicsTerms n := by
  simp [ethicsStops, Forbidden]

theorem matchesFilled {keywords : List String} {text : String}
    (found : (ofTerms keywords).findMatches text ≠ []) : ∃ keyword ∈ keywords, Text.trim keyword ≠ "" := by
  obtain ⟨keyword, listed, filled, _⟩ := foundUnhidden found
  exact ⟨keyword, listed, filled⟩

theorem confidentialStops : Stops c (publicationGatekeeper mission) n ↔ Confidential mission c n := by
  rw [gatekeeperStops]
  constructor
  · rintro ⟨profile, given, found⟩
    have somewhere : ∃ text ∈ [n.intent, n.growth, attribution c],
        (ofTerms profile.keywords).findMatches text ≠ [] := by simpa using found
    obtain ⟨text, _, hits⟩ := id somewhere
    exact ⟨profile, given, matchesFilled hits, somewhere⟩
  · rintro ⟨profile, given, _, found⟩
    exact ⟨profile, given, by simpa using found⟩

theorem forbiddenBlocks (found : Forbidden s.ethicsTerms n) :
    BlockedBy "ethics_filter" [] s.marker n ((standard s mission).run c n) := by
  obtain ⟨reason, _, ends⟩ := @endsHere s.marker _ _ _ ((@forbiddenStops c n s).mpr found)
  rw [run, standard, ends, ethicsKeeps]
  exact ⟨rfl, rfl, rfl, ⟨_, rfl, .cons ⟨_, String.append_assoc⟩ .nil⟩, rfl⟩

theorem confidentialBlocks (allowed : ¬ Forbidden s.ethicsTerms n) (found : Confidential mission c n) :
    BlockedBy "publication_gatekeeper" ["ethics_filter"] s.marker n ((standard s mission).run c n) := by
  have goes : ¬ Stops c (ethicsFilter s.ethicsTerms) n := fun stops => allowed ((forbiddenStops s).mp stops)
  have logged : after c n (ethicsFilter s.ethicsTerms) =
      n.log (entry (ethicsFilter s.ethicsTerms) ((ethicsFilter s.ethicsTerms).apply c n).2) := by
    rw [after, ethicsKeeps]
  -- The filter leaves both texts, so the gatekeeper reads what came in.
  have stops : Stops c (publicationGatekeeper mission) (after c n (ethicsFilter s.ethicsTerms)) := by
    rw [confidentialStops, logged]
    exact found
  obtain ⟨reason, _, ends⟩ := @endsHere s.marker _ _ _ stops
  rw [run, standard, goesOn goes, ends, ethicsQuiet, gatekeeperKeeps, logged]
  refine ⟨rfl, rfl, rfl, ⟨_, List.append_assoc _ _ _, ?_⟩, rfl⟩
  exact .cons (entryTagged _ _) (.cons ⟨_, String.append_assoc⟩ .nil)

theorem unblockedHeard (allowed : ¬ Forbidden s.ethicsTerms n) (unguarded : ¬ Confidential mission c n) :
    HeardAll n ((standard s mission).run c n) := by
  have passed : ((standard s mission).run c n).status = .passed := by
    rw [standardPasses, forbiddenStops, confidentialStops]
    exact ⟨allowed, unguarded⟩
  have whole := passedWhole passed
  refine ⟨passed, ?_, ?_⟩
  · rw [run, whole]
    have silent (stage : Stage) (listed : stage ∈ (standard s mission).stages) (m : Narrative) :=
      deafSilent (@standardDeaf c s mission stage listed) m
    exact loggedNames (clearLogged silent n)
  · rw [run, whole]
    exact warnedNames (standardQuiet s) n

/-- The filter blocks exactly what it finds forbidden, the gatekeeper exactly what it finds confidential
of the rest, and all else is heard to the end. -/
theorem verdictOfTwoChecks (s : PipelineSettings) (mission : Option MissionProfile) (c : Circumstances)
    (n : Narrative) :
    (BlockedBy "ethics_filter" [] s.marker n ((standard s mission).run c n) ↔
      Forbidden s.ethicsTerms n) ∧
    (BlockedBy "publication_gatekeeper" ["ethics_filter"] s.marker n ((standard s mission).run c n) ↔
      ¬ Forbidden s.ethicsTerms n ∧ Confidential mission c n) ∧
    (HeardAll n ((standard s mission).run c n) ↔
      ¬ Forbidden s.ethicsTerms n ∧ ¬ Confidential mission c n) := by
  by_cases forbidden : Forbidden s.ethicsTerms n
  · have blocked := @forbiddenBlocks c n mission s forbidden
    refine ⟨iff_of_true blocked forbidden, iff_of_false ?_ (fun both => both.1 forbidden),
      iff_of_false ?_ (fun both => both.1 forbidden)⟩
    · intro other
      exact absurd (blocked.status.symm.trans other.status) (by decide)
    · intro heard
      exact absurd (blocked.status.symm.trans heard.status) (by decide)
  · by_cases confidential : Confidential mission c n
    · have blocked := confidentialBlocks s forbidden confidential
      refine ⟨iff_of_false ?_ forbidden, iff_of_true blocked ⟨forbidden, confidential⟩,
        iff_of_false ?_ (fun both => both.2 confidential)⟩
      · intro other
        exact absurd (blocked.status.symm.trans other.status) (by decide)
      · intro heard
        exact absurd (blocked.status.symm.trans heard.status) (by decide)
    · have heard := unblockedHeard s forbidden confidential
      refine ⟨iff_of_false ?_ forbidden, iff_of_false ?_ (fun both => confidential both.2),
        iff_of_true heard ⟨forbidden, confidential⟩⟩
      · intro blocked
        exact absurd (heard.status.symm.trans blocked.status) (by decide)
      · intro blocked
        exact absurd (heard.status.symm.trans blocked.status) (by decide)

end ConceptSpace.Pipeline
