import Std.Data.TreeMap
import ConceptSpace.Document.Basic
import ConceptSpace.FeatureVector

/-! The working context of one request: which concepts are true.
A concept that the context does not mention is false. -/
namespace ConceptSpace

abbrev Context := Std.TreeMap String Bool

namespace Context

def holds (c : Context) (id : String) : Bool := c.getD id false

def assert (c : Context) (id : String) : Context := c.insert id true

def facts (c : Context) : List String := (c.toList.filter (·.2)).map (·.1)

def join (c : Context) (id : String) (value : Bool) : Context := c.insert id (c.holds id || value)

def project (threshold : Float) (registry : Registry) (vector : FeatureVector) : Context :=
  (registry.dimensions.zip vector).foldl (fun c slot => c.join slot.1.id (threshold < slot.2)) ∅

end Context

structure TraceEntry where
  pass : Nat
  source : String
  fact : String
  deriving DecidableEq, Repr

namespace TraceEntry

def worldModelSource : String := "world_model"

def logicSource : String := "logic"

def document (e : TraceEntry) : Document :=
  .record [("pass", .int e.pass), ("source", .text e.source), ("fact", .text e.fact)]

end TraceEntry

end ConceptSpace
