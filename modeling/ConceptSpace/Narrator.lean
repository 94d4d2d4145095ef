import ConceptSpace.Decimal.Places
import ConceptSpace.Narrative.Attribution

/-! Narrators turn a match into text.
A justification is always built mechanically first; it is the hint of the request, and what is told
if the narrator fails. -/
namespace ConceptSpace

structure NarrationRequest where
  query : List Float
  matched : List Float
  score : Float
  hint : String
  deriving Repr

structure Narrator where
  name : String
  narrate : NarrationRequest → Except Fault String

namespace Narrator

def restate (r : NarrationRequest) : String :=
  "Match score " ++ Decimal.fixed 3 r.score ++ ". " ++ r.hint

def mechanical : Narrator := ⟨"mechanical", fun r => .ok (restate r)⟩

end Narrator

def justification (bestId : String) (score : Float) (metric : String) (trace : List TraceEntry)
    (provenance : Std.TreeMap String String) : String :=
  let observed := provenance.toList.map fun p => p.1 ++ " (" ++ p.2 ++ ")"
  let inferred := trace.map fun e => e.fact ++ " via " ++ e.source
  "Best match '" ++ bestId ++ "' under " ++ metric ++ " similarity (score "
    ++ Decimal.fixed 3 score ++ ")."
    ++ (if observed.isEmpty then "" else " Observed: " ++ commaList observed ++ ".")
    ++ (if inferred.isEmpty then "" else " Inferred: " ++ commaList inferred ++ ".")

def namesWhere (test : Float → Float → Bool) : List Dimension → List Float → List Float → List String
  | d :: rest, q :: query, matched =>
    let names := namesWhere test rest query matched.tail
    if test q (matched.headD 0) then d.displayName :: names else names
  | _, _, _ => []

def growthSummary (registry : Registry) (query matched : List Float) (threshold : Float) : String :=
  let names test := namesOrNone (namesWhere test registry.dimensions query matched)
  "Shared: " ++ names (fun q m => threshold < q && threshold < m)
    ++ ". Only in query: " ++ names (fun q m => threshold < q && !(threshold < m))
    ++ ". Only in match: " ++ names (fun q m => !(threshold < q) && threshold < m) ++ "."

end ConceptSpace
