import ConceptSpace.Fault
import ConceptSpace.Similarity.Histogram
import ConceptSpace.Text.Blank

/-! The metrics under which two vectors are compared.
Each gives a score between zero and one, and one for identical vectors. -/
namespace ConceptSpace

inductive Metric where
  | cosine
  | klDivergence
  | wasserstein
  deriving DecidableEq, Repr, Inhabited

namespace Metric

def smoothing {α : Type} [OfScientific α] : α := 1e-10

def name : Metric → String
  | .cosine => "cosine"
  | .klDivergence => "kl_divergence"
  | .wasserstein => "wasserstein"

def named? (name : String) : Option Metric :=
  if name == "cosine" then some .cosine
  else if name == "kl_divergence" || name == "kl" then some .klDivergence
  else if name == "wasserstein" || name == "emd" then some .wasserstein
  else none

def ofName (text : String) : Except Fault Metric :=
  let name := (Text.trim text).map Char.toLower
  match named? name with
  | some metric => .ok metric
  | none => .error (.unknownMetric name)

end Metric

namespace Similarity

structure Products where
  cross : Float
  left : Float
  right : Float

def Products.of (a b : List Float) : Products :=
  (a.zip b).foldl (fun s p => ⟨s.cross + p.1 * p.2, s.left + p.1 * p.1, s.right + p.2 * p.2⟩) ⟨0, 0, 0⟩

def unitClamp (x : Float) : Float :=
  let low := if x < 0 then 0 else x
  if 1 < low then 1 else low

def cosine (a b : List Float) : Float :=
  let s := Products.of a b
  if s.left == 0 || s.right == 0 then 0
  else unitClamp (s.cross / (s.left.sqrt * s.right.sqrt))

def divergence (a b : List Float) : Float :=
  if a.isEmpty then 0
  else
    let p := Histogram.distribution Metric.smoothing a
    let q := Histogram.distribution Metric.smoothing b
    Histogram.clip (Histogram.total ((p.zip q).map fun bins => bins.1 * (bins.1 / bins.2).log))

section
variable {α : Type} [Add α] [Sub α] [Neg α] [Div α] [OfNat α 0] [OfNat α 1] [OfScientific α] [LT α]
  [DecidableLT α]

def distance (a b : List α) : α := Histogram.distance Metric.smoothing a b

def closeness (distance : α) : α := 1 / (1 + distance)

end

end Similarity

def Metric.score (metric : Metric) (a b : List Float) : Float :=
  match metric with
  | .cosine => Similarity.cosine a b
  | .klDivergence => Similarity.closeness (Similarity.divergence a b)
  | .wasserstein => Similarity.closeness (Similarity.distance a b)

end ConceptSpace
