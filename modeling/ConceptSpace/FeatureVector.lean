import Std.Data.TreeMap
import ConceptSpace.Registry

/-! Feature vectors and how extractor outputs are merged into one.
A vector has one value per slot of the registry. Extractors are taken in list order and the values
of each in the order of their ids; the last usable value for an id wins and is written to every slot
with that id. A value for an unknown id, or one that is not finite, is dropped and reported. -/
namespace ConceptSpace

abbrev FeatureVector := List Float

structure ExtractorOutput where
  engine : String
  features : Std.TreeMap String Float

structure Observation where
  engine : String
  id : String
  value : Float
  deriving Repr

inductive DropReason where
  | unknownId
  | notFinite
  deriving DecidableEq, Repr

def DropReason.message : DropReason → String
  | .unknownId => "unknown dimension id"
  | .notFinite => "non-finite value"

structure DroppedFeature where
  engine : String
  id : String
  reason : DropReason
  deriving DecidableEq, Repr

structure MergedVector where
  vector : FeatureVector
  provenance : Std.TreeMap String String
  dropped : List DroppedFeature

def ExtractorOutput.observations (output : ExtractorOutput) : List Observation :=
  output.features.toList.map fun f => ⟨output.engine, f.1, f.2⟩

namespace Observation

def dropReason? (registry : Registry) (o : Observation) : Option DropReason :=
  if (registry.ids.contains o.id) then
    if o.value.isFinite then none else some .notFinite
  else some .unknownId

def accepted (registry : Registry) (o : Observation) : Bool := (o.dropReason? registry).isNone

def dropped? (registry : Registry) (o : Observation) : Option DroppedFeature :=
  (o.dropReason? registry).map fun reason => ⟨o.engine, o.id, reason⟩

end Observation

namespace FeatureVector

def zeros (registry : Registry) : FeatureVector := registry.dimensions.map fun _ => 0

def adjust (change : Dimension → Float → Float) : List Dimension → FeatureVector → FeatureVector
  | d :: rest, x :: xs => change d x :: adjust change rest xs
  | _, xs => xs

def place (registry : Registry) (vector : FeatureVector) (id : String) (value : Float) :
    FeatureVector :=
  adjust (fun d x => if d.id == id then value else x) registry.dimensions vector

def raised (x : Float) : Float := if x == 0 then 1 else x

def raise (registry : Registry) (vector : FeatureVector) (id : String) : FeatureVector :=
  adjust (fun d x => if d.id == id then raised x else x) registry.dimensions vector

def layerSlice (registry : Registry) (vector : FeatureVector) (layer : String) : List Float :=
  (registry.indicesOfLayer layer).filterMap (vector[·]?)

end FeatureVector

namespace MergedVector

def ofOutputs (registry : Registry) (outputs : List ExtractorOutput) : MergedVector :=
  let observations := outputs.flatMap ExtractorOutput.observations
  let accepted := observations.filter (Observation.accepted registry)
  { vector := accepted.foldl (fun v o => v.place registry o.id o.value) (.zeros registry)
    provenance := accepted.foldl (fun m o => m.insert o.id o.engine) ∅
    dropped := observations.filterMap (Observation.dropped? registry) }

end MergedVector

end ConceptSpace
