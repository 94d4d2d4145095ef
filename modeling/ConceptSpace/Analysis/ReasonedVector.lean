import ConceptSpace.Knowledge
import ConceptSpace.Reasoning.DimensionRules

/-! What reasoning makes of extractor outputs: they are merged into a vector, facts are chained from
the dimensions it makes true, and the formulas of the dimensions are swept once over the result. -/
namespace ConceptSpace

structure ReasonedVector where
  raw : FeatureVector
  vector : FeatureVector
  provenance : Std.TreeMap String String
  dropped : List DroppedFeature
  context : Context
  trace : List TraceEntry
  passes : Nat
  warnings : List Fault

namespace ReasonedVector

def ofOutputs {World : Type} [WorldModel World] (reasoner : Reasoner) (knowledge : KnowledgeOver World)
    (outputs : List ExtractorOutput) : ReasonedVector :=
  let registry := knowledge.registry
  let merged := MergedVector.ofOutputs registry outputs
  let projected := Context.project reasoner.threshold registry merged.vector
  let outcome := reasoner.run knowledge.theory projected
  let inferred := outcome.applyTo registry merged.vector
  let sweep := Sweep.run (outcome.passes + 1) registry.dimensions outcome.context inferred
  { raw := merged.vector
    vector := sweep.vector
    provenance := merged.provenance
    dropped := merged.dropped
    context := sweep.context
    trace := outcome.trace ++ sweep.trace
    passes := outcome.passes
    warnings := outcome.warning?.toList }

end ReasonedVector

def Registry.layerActivity (registry : Registry) (threshold : Float) (vector : FeatureVector) :
    Std.TreeMap String Nat :=
  let idle : Std.TreeMap String Nat := registry.layers.foldl (fun m layer => m.insert layer 0) ∅
  let active := (registry.dimensions.zip vector).filter fun slot => threshold < slot.2
  active.foldl (fun m slot => m.insert slot.1.layer (m.getD slot.1.layer 0 + 1)) idle

end ConceptSpace
