import ConceptSpace.Knowledge
import ConceptSpace.Narrative.Pipeline

/-! The settings of an engine. -/
namespace ConceptSpace

inductive NarratorKind where
  | mechanical
  | openrouter
  deriving DecidableEq, Repr

def NarratorKind.name : NarratorKind → String
  | .mechanical => "mechanical"
  | .openrouter => "openrouter"

def NarratorKind.named? (name : String) : Option NarratorKind :=
  if name == "mechanical" then some .mechanical
  else if name == "openrouter" || name == "open_router" then some .openrouter
  else none

structure Settings where
  paths : KnowledgePaths := {}
  reasoner : Reasoner := {}
  metric : Metric := .cosine
  appliesWeights : Bool := true
  parallelThreshold : Nat := 1000
  pipeline : PipelineSettings := {}
  ethicsTermsPath : Option String := none
  historyPath : Option String := none
  historyWindow : Nat := 50
  historyCapacity : Nat := 500
  narrator : NarratorKind := .mechanical
  narratorModel : Option String := none
  deriving Repr

namespace Settings

def effectiveCapacity (s : Settings) : Nat := max (max s.historyCapacity s.historyWindow) 1

def termsIn (text : String) : List String :=
  ((Text.splitAt '\n' text).map Text.trim).filter fun line =>
    !line.isEmpty && line.toList.head? != some '#'

def fileTerms (s : Settings) (files : FileTree) : List String :=
  match s.ethicsTermsPath.map files.readText with
  | some (.ok text) => termsIn text
  | _ => []

def allEthicsTerms (s : Settings) (files : FileTree) : List String :=
  s.pipeline.ethicsTerms ++ s.fileTerms files

def pipelineSettings (s : Settings) (files : FileTree) : PipelineSettings :=
  { s.pipeline with ethicsTerms := s.allEthicsTerms files }

end Settings

end ConceptSpace
