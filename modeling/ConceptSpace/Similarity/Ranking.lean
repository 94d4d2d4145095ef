import ConceptSpace.FeatureVector
import ConceptSpace.Library
import ConceptSpace.Similarity.Metric
import ConceptSpace.Similarity.Selection

/-! Ranking a library by similarity to a query.
Entries of another length than the query, or with a value that is not finite, are reported and left
out. The others are scored in library order and picked by score; scores within the tolerance of a tie
are equal, and the earlier entry comes first. A score is a float when the program runs, and an exact number in
the theory of the order. -/
namespace ConceptSpace

def tieTolerance {α : Type} [OfScientific α] : α := 1e-9

structure RankedEntry (α : Type) where
  id : String
  score : α
  index : Nat
  deriving Repr

abbrev ScoredMatch := RankedEntry Float

structure Ranking where
  metric : Metric
  matched : List ScoredMatch
  warnings : List Fault
  deriving Repr

structure Matcher where
  metric : Metric
  weights : Option (List Float) := none
  parallelThreshold : Nat := 1000
  deriving Repr

namespace Matcher

def withWeights (m : Matcher) (weights : List Float) : Matcher :=
  { m with weights := some (weights.map Histogram.clip) }

def weighted (m : Matcher) (values : List Float) : List Float :=
  match m.weights with
  | some weights =>
    if weights.length == values.length then List.zipWith (· * ·) values weights else values
  | none => values

def usable (query : List Float) (entry : LibraryEntry) : Bool :=
  entry.vector.length == query.length && entry.vector.all Float.isFinite

def score (m : Matcher) (query : List Float) (entry : LibraryEntry) : Float :=
  m.metric.score query (m.weighted entry.vector)

def scores (m : Matcher) (query : List Float) (entries : List LibraryEntry) : List Float :=
  let weightedQuery := m.weighted query
  if m.parallelThreshold < entries.length then
    (entries.map fun e => Task.spawn fun _ => m.score weightedQuery e).map Task.get
  else entries.map (m.score weightedQuery)

def comparable (query : List Float) (library : Library) : List (LibraryEntry × Nat) :=
  library.zipIdx.filter fun e => usable query e.1

def mismatches (query : List Float) (library : Library) : List Fault :=
  (library.filter fun e => !usable query e).map fun e =>
    .shapeMismatch e.id query.length e.vector.length

def select {α : Type} (yields : α → α → Bool) (entries : List (LibraryEntry × Nat)) (scores : List α)
    (limit : Nat) : List (RankedEntry α) :=
  let count := if limit == 0 then entries.length else min limit entries.length
  (Selection.pick yields (Selection.candidates scores) count).filterMap fun c =>
    entries[c.position]?.map fun e => ⟨e.1.id, c.score, e.2⟩

def rankBy (m : Matcher) (yields : Float → Float → Bool) (query : List Float) (library : Library)
    (limit : Nat) : Ranking :=
  let entries := comparable query library
  { metric := m.metric
    matched := select yields entries (m.scores query (entries.map (·.1))) limit
    warnings := mismatches query library }

def rank (m : Matcher) (query : List Float) (library : Library) (limit : Nat) : Ranking :=
  m.rankBy (Selection.within tieTolerance) query library limit

end Matcher

def Ranking.best (r : Ranking) : Except Fault ScoredMatch :=
  match r.matched with
  | best :: _ => .ok best
  | [] => .error .emptyLibrary

def Matcher.findBest (m : Matcher) (query : List Float) (library : Library) :
    Except Fault ScoredMatch :=
  (m.rank query library 1).best

end ConceptSpace
