import ConceptSpace.Definition.File
import ConceptSpace.Reasoning.Chaining

/-! Knowledge: all that an analysis consults besides its request, and how it is gathered from files.
Only the registry is indispensable. Any other part whose file fails is empty, and the fault is kept
as a warning; the parts do not depend on each other. -/
namespace ConceptSpace

structure KnowledgeOver (World : Type) where
  registry : Registry
  rulebase : Rulebase := .empty
  graph : World
  library : Library := []
  mission : Option MissionProfile := none

def KnowledgeOver.theory {World : Type} (k : KnowledgeOver World) : TheoryOver World := ⟨k.rulebase, k.graph⟩

-- What the program itself gathers, over a concept graph.
abbrev Knowledge := KnowledgeOver ConceptGraph

structure KnowledgePaths where
  dimensions : List String := []
  rulebase : Option String := none
  graph : Option String := none
  library : Option String := none
  mission : Option String := none
  deriving DecidableEq, Repr

structure KnowledgeFiles where
  dimensions : List (Except Fault (List DimensionDef))
  rulebase : Option (Except Fault Rulebase)
  graph : Option (Except Fault ConceptGraph)
  library : Option (Except Fault Library)
  mission : Option (Except Fault MissionProfile)

def KnowledgeFiles.read (files : FileTree) (paths : KnowledgePaths) : KnowledgeFiles where
  dimensions := paths.dimensions.map (Definition.contents Definition.dimensions? files)
  rulebase := paths.rulebase.map (Definition.contents Definition.rulebase? files)
  graph := paths.graph.map (Definition.contents Definition.graph? files)
  library := paths.library.map (Definition.contents Definition.library? files)
  mission := (paths.mission.filter files.exists?).map (Definition.contents Definition.mission? files)

namespace Knowledge

def content? (part : Option (Except Fault α)) : Option α := part.bind Except.toOption

def fault? (part : Option (Except Fault α)) : Option Fault := part.bind Fault.of?

def ofFiles (files : KnowledgeFiles) : Except Fault (Knowledge × List Fault) := do
  let registry ← Registry.ofFiles files.dimensions
  let rulebase := (content? files.rulebase).getD .empty
  let knowledge : Knowledge := {
    registry
    rulebase
    graph := (content? files.graph).getD .empty
    library := (content? files.library).getD []
    mission := content? files.mission }
  return (knowledge, registry.warnings ++ (fault? files.rulebase).toList ++ rulebase.warnings
    ++ (fault? files.graph).toList ++ (fault? files.library).toList
    ++ (fault? files.mission).toList)

def load (files : FileTree) (paths : KnowledgePaths) : Except Fault (Knowledge × List Fault) :=
  ofFiles (.read files paths)

def describe (k : Knowledge) : String :=
  "KnowledgeSnapshot \x7b dimensions: " ++ toString k.registry.size
    ++ ", rules: " ++ toString k.rulebase.size
    ++ ", library: " ++ toString k.library.length
    ++ ", mission_profile: " ++ (if k.mission.isSome then "true" else "false") ++ " \x7d"

end Knowledge

end ConceptSpace
