import ConceptSpace.Definition.Decode
import ConceptSpace.Narrative.Pipeline

/-! Requests for an analysis, and the reports that answer them. -/
namespace ConceptSpace

structure AnalysisRequest where
  outputs : List ExtractorOutput
  metric : Option Metric := none

def metric? (d : Document) : Option Metric := d.asWord? Metric.named?

open Document in
def AnalysisRequest.decode? (d : Document) : Option AnalysisRequest := do
  match ← d.fieldsOf? [["features"], ["metric"]] with
  | [features, metric] =>
    some ⟨← required (Definition.outputsIn? reading) features, ← withDefault none (optional metric?) metric⟩
  | _ => none

inductive AnalysisStatus where
  | matched
  | noMatch
  | blocked
  deriving DecidableEq, Repr

def AnalysisStatus.name : AnalysisStatus → String
  | .matched => "matched"
  | .noMatch => "no_match"
  | .blocked => "blocked"

structure Report where
  status : AnalysisStatus
  bestId : Option String
  score : Float
  metric : Metric
  vector : FeatureVector
  trace : List TraceEntry
  intent : String
  growth : String
  auditLog : List String
  warnings : List String
  deriving Repr

structure MatchResult where
  bestId : String
  score : Float
  metric : Metric
  vector : FeatureVector
  trace : List TraceEntry
  deriving Repr

namespace Report

def match? (r : Report) : Option MatchResult :=
  r.bestId.map fun id => ⟨id, r.score, r.metric, r.vector, r.trace⟩

def document (r : Report) : Document :=
  .record [
    ("status", .text r.status.name),
    ("best_id", (r.bestId.map Document.text).getD .null),
    ("score", .real r.score),
    ("metric_used", .text r.metric.name),
    ("vector", .list (r.vector.map .real)),
    ("reasoning_trace", .list (r.trace.map TraceEntry.document)),
    ("intent_text", .text r.intent),
    ("growth_text", .text r.growth),
    ("audit_log", .list (r.auditLog.map .text)),
    ("warnings", .list (r.warnings.map .text))]

end Report

end ConceptSpace
