import ConceptSpace.Narrative.Pipeline

/-! Runs of stages.
A run that passes is the fold of its stages over the narrative, and it passes when none of them stops
it where the fold has come to. -/
namespace ConceptSpace

def Tagged (name line : String) : Prop := ∃ note, line = "[" ++ name ++ "] " ++ note

namespace Pipeline

def Stops (c : Circumstances) (stage : Stage) (n : Narrative) : Prop :=
  stage.isBlocking = true ∧ ∃ reason, (stage.apply c n).2 = .block reason

def entry (stage : Stage) : Verdict → String
  | .pass note => "[" ++ stage.name ++ "] " ++ note
  | .warn note => "[" ++ stage.name ++ "] " ++ "WARNING: " ++ note
  | .block reason => "[" ++ stage.name ++ "] " ++ "passed (block ignored: " ++ reason ++ ")"

theorem entryTagged (stage : Stage) (verdict : Verdict) : Tagged stage.name (entry stage verdict) := by
  cases verdict with
  | pass note => exact ⟨note, rfl⟩
  | warn note => exact ⟨"WARNING: " ++ note, by simp only [entry, String.append_assoc]⟩
  | block reason =>
    exact ⟨"passed (block ignored: " ++ (reason ++ ")"), by simp only [entry, String.append_assoc]⟩

def after (c : Circumstances) (n : Narrative) (stage : Stage) : Narrative :=
  (stage.apply c n).1.log (entry stage (stage.apply c n).2)

def warning? (stage : Stage) : Verdict → Option String
  | .warn note => some (stage.name ++ ": " ++ note)
  | _ => none

section
variable {marker : String} {c : Circumstances}

theorem goesOn {stage : Stage} {rest : List Stage} {n : Narrative} (goes : ¬ Stops c stage n) :
    runStages marker c (stage :: rest) n =
      { runStages marker c rest (after c n stage) with
        warnings := (warning? stage (stage.apply c n).2).toList ++
          (runStages marker c rest (after c n stage)).warnings } := by
  unfold Stops at goes
  unfold after
  rw [runStages]
  cases applied : stage.apply c n with
  | mk next verdict =>
    cases verdict with
    | pass note => rfl
    | warn note => rfl
    | block reason =>
      have advisory : ¬ stage.isBlocking = true := by
        intro blocking
        exact goes ⟨blocking, reason, by rw [applied]⟩
      dsimp only
      rw [if_neg advisory]
      rfl

theorem runGoes {stage : Stage} {rest : List Stage} {n : Narrative} (goes : ¬ Stops c stage n) :
    (runStages marker c (stage :: rest) n).status = (runStages marker c rest (after c n stage)).status ∧
      (runStages marker c (stage :: rest) n).narrative =
        (runStages marker c rest (after c n stage)).narrative := by
  rw [goesOn goes]
  exact ⟨rfl, rfl⟩

theorem endsHere {stage : Stage} {n : Narrative} (stops : Stops c stage n) :
    ∃ reason, (stage.apply c n).2 = .block reason ∧ ∀ rest,
      runStages marker c (stage :: rest) n =
        ⟨(redacted marker (stage.apply c n).1).log
          ("[" ++ stage.name ++ "] " ++ "BLOCKED: " ++ reason), .blocked stage.name, []⟩ := by
  obtain ⟨blocking, reason, blocks⟩ := stops
  refine ⟨reason, blocks, fun rest => ?_⟩
  rw [runStages]
  cases applied : stage.apply c n with
  | mk next verdict =>
    rw [applied] at blocks
    dsimp only at blocks
    subst blocks
    dsimp only
    rw [if_pos blocking]

theorem runStops {stage : Stage} {rest : List Stage} {n : Narrative} (stops : Stops c stage n) :
    (runStages marker c (stage :: rest) n).status = .blocked stage.name := by
  obtain ⟨_, _, ends⟩ := endsHere stops
  rw [ends]

theorem passedStep {stage : Stage} {rest : List Stage} {n : Narrative} :
    (runStages marker c (stage :: rest) n).status = .passed ↔
      ¬ Stops c stage n ∧ (runStages marker c rest (after c n stage)).status = .passed := by
  by_cases stops : Stops c stage n
  · simp [stops, runStops stops]
  · simp [stops, (runGoes stops).1]

theorem passedNarrative {stages : List Stage} {n : Narrative}
    (passed : (runStages marker c stages n).status = .passed) :
    (runStages marker c stages n).narrative = stages.foldl (after c) n := by
  induction stages generalizing n with
  | nil => rfl
  | cons stage rest ih =>
    obtain ⟨goes, later⟩ := passedStep.mp passed
    rw [(runGoes goes).2, ih later, List.foldl_cons]

end

end Pipeline

end ConceptSpace
