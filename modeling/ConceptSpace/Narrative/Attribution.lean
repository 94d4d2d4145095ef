import Std.Data.TreeSet
import ConceptSpace.Narrative.Stage
import ConceptSpace.Text.Blank
import ConceptSpace.Text.Words

/-! The attribution of a narrative: where its values and facts came from. -/
namespace ConceptSpace

def commaList (items : List String) : String := String.intercalate ", " items

def namesOrNone (names : List String) : String := if names.isEmpty then "none" else commaList names

def attribution (c : Circumstances) : String :=
  let engines := (Std.TreeSet.ofList c.provenance.values).toList
  let rules := c.trace.countP fun e => Text.startsWith "rule:" e.source
  let world := c.trace.countP fun e => e.source == TraceEntry.worldModelSource
  let logic := c.trace.countP fun e => Text.startsWith TraceEntry.logicSource e.source
  "Sources: extractors [" ++ namesOrNone engines ++ "]; rule inferences " ++ toString rules
    ++ "; world-model inferences " ++ toString world ++ "; logical rules " ++ toString logic
    ++ "; matched " ++ c.bestId.getD "none" ++ " (" ++ c.metric.name ++ ")."

def integrityTracker : Stage where
  name := "integrity_tracker"
  apply c n :=
    let intent :=
      if n.intent.isEmpty then attribution c else Text.trimEnd n.intent ++ " " ++ attribution c
    ({ n with intent := intent },
      .pass ("attributed " ++ toString c.provenance.size ++ " extractor value(s), "
        ++ toString c.trace.length ++ " derivation(s)"))

end ConceptSpace
