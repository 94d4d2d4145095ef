import ConceptSpace.Analysis.ReasonedVector
import ConceptSpace.Analysis.Report
import ConceptSpace.Narrator
import ConceptSpace.Settings.Basic
import ConceptSpace.Similarity.Ranking

/-! An analysis in three steps.
It starts by reasoning over its request, finding the best match and telling what the match rests on;
this fixes a draft. Then the history is read. The draft is finished by running the pipeline under
that history, and what is published goes back to the history. -/
namespace ConceptSpace

structure Draft where
  bestId : Option String
  score : Float
  metric : Metric
  reasoned : ReasonedVector
  layerActivity : Std.TreeMap String Nat
  narrative : Narrative
  warnings : List String
  pipeline : Pipeline

namespace Draft

def told (narrator : Narrator) (request : NarrationRequest) : String × String × List String :=
  match narrator.narrate request with
  | .ok text => (text, "[narrator] " ++ narrator.name, [])
  | .error fault =>
    (Narrator.restate request,
      "[narrator] " ++ narrator.name ++ " failed, mechanical fallback: " ++ fault.message,
      [fault.message])

def dropWarning (d : DroppedFeature) : String :=
  "dropped " ++ d.id ++ " from " ++ d.engine ++ ": " ++ d.reason.message

def matcher (settings : Settings) (registry : Registry) (metric : Metric) : Matcher :=
  let plain : Matcher := ⟨metric, none, settings.parallelThreshold⟩
  if settings.appliesWeights then plain.withWeights registry.weights else plain

def start (settings : Settings) (pipeline : PipelineSettings) (narrator : Narrator)
    (knowledge : Knowledge) (request : AnalysisRequest) : Draft :=
  let registry := knowledge.registry
  let threshold := settings.reasoner.threshold
  let reasoned := ReasonedVector.ofOutputs settings.reasoner knowledge request.outputs
  let metric := request.metric.getD settings.metric
  let ranking := (matcher settings registry metric).rank reasoned.vector knowledge.library 1
  let warnings := reasoned.dropped.map dropWarning
    ++ (reasoned.warnings ++ ranking.warnings).map Fault.message
  let growth := growthSummary registry reasoned.vector
  let draft (bestId : Option String) (score : Float) (narrative : Narrative) (more : List String) :
      Draft :=
    { bestId, score, metric, reasoned, narrative
      layerActivity := registry.layerActivity threshold reasoned.vector
      warnings := warnings ++ more
      pipeline := .standard pipeline knowledge.mission }
  match ranking.best with
  | .ok best =>
    let matched := ((knowledge.library[best.index]?).map (·.vector)).getD []
    let hint := justification best.id best.score metric.name reasoned.trace reasoned.provenance
    let (intent, line, more) := told narrator ⟨reasoned.vector, matched, best.score, hint⟩
    draft (some best.id) best.score ⟨intent, growth matched threshold, [line]⟩ more
  | .error fault =>
    draft none 0
      ⟨"No match: the library holds no comparable vector.", growth [] threshold,
        ["[matcher] no comparable library entry"]⟩ [fault.message]

def circumstances (d : Draft) (history : List NarrativeRecord) : Circumstances where
  bestId := d.bestId
  score := d.score
  metric := d.metric
  provenance := d.reasoned.provenance
  trace := d.reasoned.trace
  layerActivity := d.layerActivity
  history

def status (d : Draft) (result : PipelineResult) : AnalysisStatus :=
  if result.isBlocked then .blocked else if d.bestId.isSome then .matched else .noMatch

def finish (d : Draft) (history : Except Fault (List NarrativeRecord)) : Report :=
  let result := d.pipeline.run (d.circumstances (history.toOption.getD [])) d.narrative
  { status := d.status result
    bestId := d.bestId
    score := d.score
    metric := d.metric
    vector := d.reasoned.vector
    trace := d.reasoned.trace
    intent := result.narrative.intent
    growth := result.narrative.growth
    auditLog := result.narrative.auditLog
    warnings := d.warnings ++ ((Fault.of? history).map Fault.message).toList ++ result.warnings }

end Draft

def Report.record? (r : Report) (time : Int) : Option NarrativeRecord :=
  if r.status == .blocked then none else some ⟨time, r.bestId, r.score, r.intent, r.growth⟩

end ConceptSpace
