import ConceptSpace.Decimal.Places
import ConceptSpace.Decimal.Reading
import ConceptSpace.Narrative.Stage
import ConceptSpace.Text.Words

/-! The stages that look for signs of trouble and only advise: one layer that dominates, a growth
text that repeats an earlier one, and texts whose measures are far from those before. -/
namespace ConceptSpace

def dominantLayer (activity : List (String × Nat)) : String × Nat :=
  activity.foldl (fun best layer => if best.2 < layer.2 then layer else best) ("", 0)

inductive Balance (α : Type) where
  | idle
  | single (total : Nat)
  | dominated (layer : String) (share : α)
  | even (share : α)
  deriving Repr

namespace Balance

/-- One of several layers dominates if it has more than the given share of all that is counted. The
arithmetic of shares is a parameter: floats when the program runs, exact fractions in its theory. -/
def of {α : Type} [Div α] [LT α] [DecidableLT α] (ofCount : Nat → α) (dominance : α)
    (activity : List (String × Nat)) : Balance α :=
  let total := activity.foldl (fun n layer => n + layer.2) 0
  if total == 0 then .idle
  else if activity.length < 2 then .single total
  else
    let dominant := dominantLayer activity
    let share := ofCount dominant.2 / ofCount total
    if dominance < share then .dominated dominant.1 share else .even share

def verdict {α : Type} (write : α → String) : Balance α → Verdict
  | .idle => .warn "no active dimensions"
  | .single total => .pass (toString total ++ " active dimension(s) in a single layer")
  | .dominated layer share =>
    .warn ("layer '" ++ layer ++ "' carries " ++ write share ++ " of active dimensions")
  | .even share => .pass ("balanced (max layer share " ++ write share ++ ")")

end Balance

def balanceCheckerBy {α : Type} [Div α] [LT α] [DecidableLT α] (ofCount : Nat → α)
    (write : α → String) (dominance : α) : Stage where
  name := "balance_checker"
  apply c n := (n, (Balance.of ofCount dominance c.layerActivity.toList).verdict write)

def percentage (share : Float) : String := Decimal.fixed 0 (share * 100) ++ "%"

def balanceChecker (dominance : Float) : Stage := balanceCheckerBy Float.ofNat percentage dominance

def greatest (xs : List Float) : Float := xs.foldl (fun best x => if best < x then x else best) 0

def growthTracker (novelty : Float) : Stage where
  name := "growth_tracker"
  apply c n :=
    if c.history.isEmpty then (n, .pass "no history")
    else
      let most := greatest (c.history.map fun r => Text.similarity n.growth r.growth)
      if novelty < most then
        (n, .warn ("growth text repeats a recent narrative (similarity " ++ Decimal.fixed 2 most ++ ")"))
      else (n, .pass ("novel (max similarity " ++ Decimal.fixed 2 most ++ ")"))

def negligible : Float := 1e-12

def zScore (x : Float) (samples : List Float) : Float :=
  let count := Float.ofNat samples.length
  let mean := samples.foldl (· + ·) 0 / count
  let variance := (samples.map fun s => (s - mean) * (s - mean)).foldl (· + ·) 0 / count
  let deviation := variance.sqrt
  if deviation < negligible then
    if (x - mean).abs < negligible then 0 else Decimal.infinity
  else (x - mean) / deviation

def anomalyMonitor (threshold : Float) (minSamples : Nat) : Stage where
  name := "anomaly_monitor"
  apply c n :=
    let needed := max minSamples 2
    if c.history.length < needed then
      (n, .pass ("insufficient history (" ++ toString c.history.length ++ "/" ++ toString needed ++ ")"))
    else
      let lengths := c.history.map fun r => Float.ofNat (r.intent.length + r.growth.length)
      let likeness := c.history.map fun r => Text.similarity r.intent r.growth
      let lengthScore := zScore (Float.ofNat n.combinedLength) lengths
      let likenessScore := zScore (Text.similarity n.intent n.growth) likeness
      let lengthText := "length z=" ++ Decimal.fixed 2 lengthScore
      let likenessText := "self-correlation z=" ++ Decimal.fixed 2 likenessScore
      let flags := (if threshold < lengthScore.abs then [lengthText] else [])
        ++ (if threshold < likenessScore.abs then [likenessText] else [])
      if flags.isEmpty then
        (n, .pass ("within range (" ++ lengthText ++ ", " ++ likenessText ++ ")"))
      else (n, .warn ("anomalous narrative: " ++ String.intercalate "; " flags))

end ConceptSpace
