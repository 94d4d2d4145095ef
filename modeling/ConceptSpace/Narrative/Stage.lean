import Std.Data.TreeMap
import ConceptSpace.Reasoning.Context
import ConceptSpace.Similarity.Metric

/-! What narrative stages work on and what they decide. -/
namespace ConceptSpace

structure NarrativeRecord where
  recordedAt : Int -- milliseconds since the epoch
  bestId : Option String
  score : Float
  intent : String
  growth : String
  deriving Repr

structure Narrative where
  intent : String
  growth : String
  auditLog : List String
  deriving DecidableEq, Repr

namespace Narrative

def combinedLength (n : Narrative) : Nat := n.intent.length + n.growth.length

def log (n : Narrative) (line : String) : Narrative := { n with auditLog := n.auditLog ++ [line] }

end Narrative

structure Circumstances where
  bestId : Option String
  score : Float
  metric : Metric
  provenance : Std.TreeMap String String
  trace : List TraceEntry
  layerActivity : Std.TreeMap String Nat
  history : List NarrativeRecord

/-- What a stage decides; a block counts only if the stage may block. -/
inductive Verdict where
  | pass (note : String)
  | warn (note : String)
  | block (reason : String)
  deriving DecidableEq, Repr

structure Stage where
  name : String
  isBlocking : Bool := false
  apply : Circumstances → Narrative → Narrative × Verdict

end ConceptSpace
