import ConceptSpace.Analysis.Draft
import ConceptSpace.History.Store
import ConceptSpace.Settings.Environment

/-! The engine: settings, the knowledge in use, a narrator and a history.
An analysis uses the knowledge that is in use when it starts. The ethics terms are gathered once, when
the engine is made; reloading replaces the knowledge and nothing else. -/
namespace ConceptSpace

structure Engine where
  settings : Settings
  pipeline : PipelineSettings
  knowledge : Knowledge
  narrator : Narrator
  history : History
  warnings : List Fault

structure Moment where
  time : Int
  mark : String
  deriving DecidableEq, Repr

namespace Engine

def ofKnowledge (files : FileTree) (settings : Settings) (knowledge : Knowledge) : Engine where
  settings
  pipeline := settings.pipelineSettings files
  knowledge
  narrator := .mechanical
  history := .window (.ofCapacity settings.effectiveCapacity)
  warnings := []

def openHistory (files : FileTree) (settings : Settings) : Except Fault History :=
  match settings.historyPath with
  | none => .ok (.window (.ofCapacity settings.effectiveCapacity))
  | some path => (Archive.open? files path).map fun a => .archive (a.withCapacity settings.effectiveCapacity)

def ofSettings (files : FileTree) (narrator : Narrator) (settings : Settings) : Except Fault Engine := do
  let (knowledge, warnings) ← Knowledge.load files settings.paths
  let history ← openHistory files settings
  return { ofKnowledge files settings knowledge with narrator, history, warnings }

def reload (e : Engine) (files : FileTree) : Except Fault Engine := do
  let (knowledge, warnings) ← Knowledge.load files e.settings.paths
  return { e with knowledge, warnings }

def publish (e : Engine) (knowledge : Knowledge) : Engine := { e with knowledge }

def reason (e : Engine) (outputs : List ExtractorOutput) : ReasonedVector :=
  .ofOutputs e.settings.reasoner e.knowledge outputs

def start (e : Engine) (request : AnalysisRequest) : Draft :=
  .start e.settings e.pipeline e.narrator e.knowledge request

def recent (e : Engine) : Except Fault (List NarrativeRecord) :=
  e.history.recent e.settings.historyWindow

def keep (e : Engine) (moment : Moment) (report : Report) : Engine × Report :=
  match report.record? moment.time with
  | none => (e, report)
  | some record =>
    match e.history.record moment.mark record with
    | .ok history => ({ e with history }, report)
    | .error fault => (e, { report with warnings := report.warnings ++ [fault.message] })

def analyze (e : Engine) (moment : Moment) (request : AnalysisRequest) : Engine × Report :=
  e.keep moment ((e.start request).finish e.recent)

end Engine

end ConceptSpace
