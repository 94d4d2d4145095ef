import ConceptSpace.Narrative.Advisory
import ConceptSpace.Narrative.Blocking
import ConceptSpace.Narrative.Nuance
import ConceptSpace.Narrative.Tone

/-! The pipeline: stages applied in order, each to the narrative that the one before left.
Every stage that runs adds one line to the log. A block by a stage that may block ends the run, with
both texts replaced by the marker; a block by any other stage is noted and passed over. -/
namespace ConceptSpace

inductive PipelineStatus where
  | passed
  | blocked (stage : String)
  deriving DecidableEq, Repr

structure PipelineResult where
  narrative : Narrative
  status : PipelineStatus
  warnings : List String
  deriving DecidableEq, Repr

def PipelineResult.isBlocked (r : PipelineResult) : Bool := r.status != .passed

structure Pipeline where
  stages : List Stage
  marker : String

namespace Pipeline

def redacted (marker : String) (n : Narrative) : Narrative :=
  { n with intent := marker, growth := marker }

def runStages (marker : String) (c : Circumstances) : List Stage → Narrative → PipelineResult
  | [], n => ⟨n, .passed, []⟩
  | stage :: rest, n =>
    let tag := "[" ++ stage.name ++ "] "
    match stage.apply c n with
    | (after, .pass note) => runStages marker c rest (after.log (tag ++ note))
    | (after, .warn note) =>
      let result := runStages marker c rest (after.log (tag ++ "WARNING: " ++ note))
      { result with warnings := (stage.name ++ ": " ++ note) :: result.warnings }
    | (after, .block reason) =>
      if stage.isBlocking then
        ⟨(redacted marker after).log (tag ++ "BLOCKED: " ++ reason), .blocked stage.name, []⟩
      else
        runStages marker c rest (after.log (tag ++ "passed (block ignored: " ++ reason ++ ")"))

def run (p : Pipeline) (c : Circumstances) (n : Narrative) : PipelineResult :=
  runStages p.marker c p.stages n

end Pipeline

def defaultEthicsTerms : List String :=
  ["violence", "weapon", "hate", "self-harm", "abuse", "exploit"]

def defaultMarker : String := "[REDACTED]"

structure PipelineSettings where
  marker : String := defaultMarker
  ethicsTerms : List String := defaultEthicsTerms
  novelty : Float := 0.9
  dominance : Float := 0.7
  anomalyThreshold : Float := 3
  anomalySamples : Nat := 5
  deriving Repr

def Pipeline.standard (s : PipelineSettings) (mission : Option MissionProfile) : Pipeline where
  marker := s.marker
  stages := [
    ethicsFilter s.ethicsTerms,
    publicationGatekeeper mission,
    toneAdjuster,
    emotionalNuance,
    integrityTracker,
    balanceChecker s.dominance,
    growthTracker s.novelty,
    anomalyMonitor s.anomalyThreshold s.anomalySamples]

end ConceptSpace
